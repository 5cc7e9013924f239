import FluentHttp.Files.Path

/-!
# FluentHttp.Files.System

What the generator asks of a file system, and how it writes a file with it: under another name
first, so that the file itself is never seen half written.
-/

namespace FluentHttp.Files

/-! ### Errors -/

/-- Why an operation on files failed. -/
inductive FileError where
  /-- An error of the operating system, by its number. -/
  | system (code : Nat) (description : String)
  /-- The path holds a NUL character, which ends a path for the operating system. -/
  | nulInPath
  /-- The file is not UTF-8. -/
  | notText
  deriving DecidableEq, Repr

namespace FileError

/-- There is nothing of this name. -/
def notFound : FileError := system 2 "No such file or directory"

/-- There is already something of this name. -/
def alreadyExists : FileError := system 17 "File exists"

/-- A file stands where a directory is needed. -/
def notDirectory : FileError := system 20 "Not a directory"

/-- A directory stands where a file is needed. -/
def isDirectory : FileError := system 21 "Is a directory"

/-- What is to be moved or replaced is a place of the walk itself. -/
def busy : FileError := system 16 "Device or resource busy"

/-- A name or a path is too long. -/
def nameTooLong : FileError := system 36 "File name too long"

/-- The wording of a file error. -/
def message : FileError → String
  | system code description => s!"{description} (os error {code})"
  | nulInPath => "file name contained an unexpected NUL byte"
  | notText => "stream did not contain valid UTF-8"

end FileError

/-- A path that could not be written. -/
structure WriteError where
  path : Path
  cause : FileError
  deriving DecidableEq, Repr

/-! ### Operations -/

/-- The operations on files that the generator uses. -/
class FileSystem (m : Type → Type) where
  /-- Makes a directory in a directory that exists. -/
  makeDirectory : Path → m (Except FileError Unit)
  /-- Whether there is a directory of this path. -/
  isDirectory : Path → m Bool
  /-- Writes a file, which need not exist, in a directory that exists. -/
  write : Path → String → m (Except FileError Unit)
  /-- Moves a file to another path, in the place of the file that was there. -/
  move : Path → Path → m (Except FileError Unit)
  /-- Reads a file. -/
  read : Path → m (Except FileError String)

section

variable {m : Type → Type} [Monad m] [FileSystem m]

/-- Makes directories, each after those that follow it in the list, as far as they are missing. -/
def makeDirectories : List Path → m (Except FileError Unit)
  | [] => return .ok ()
  | path :: above => do
    match ← FileSystem.makeDirectory path with
    | .ok _ => return .ok ()
    | .error error =>
      if error = .notFound then
        match ← makeDirectories above with
        | .ok _ => settle path (← FileSystem.makeDirectory path)
        | .error error => return .error error
      else settle path (.error error)
where
  /-- A directory that could not be made will do if it is there. -/
  settle (path : Path) : Except FileError Unit → m (Except FileError Unit)
    | .ok _ => return .ok ()
    | .error error => do
      if ← FileSystem.isDirectory path then return .ok () else return .error error

/-- What came of an operation, a failure being put down to a path. -/
def blaming (path : Path) (outcome : m (Except FileError Unit)) : ExceptT WriteError m Unit :=
  ExceptT.mk do
    match ← outcome with
    | .ok _ => return .ok ()
    | .error cause => return .error { path, cause }

/-- Writes a file, and the directories above it as far as they are missing. The content goes to a
file beside it first, which then takes its place in one step. -/
def writeAtomic (path : Path) (content : String) : ExceptT WriteError m Unit := do
  match path.parent? with
  | some parent => blaming parent (makeDirectories parent.ancestors)
  | none => pure ()
  let temporary := path.withExtension "tmp"
  blaming temporary (FileSystem.write temporary content)
  blaming path (FileSystem.move temporary path)

end

end FluentHttp.Files
