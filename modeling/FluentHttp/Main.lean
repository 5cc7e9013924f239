import FluentHttp.CommandLine.Program

/-!
# FluentHttp.Main

The command line on the files and the console of the system.
-/

namespace FluentHttp.CommandLine

open Files

/-- An operation of the system, its error being put into the words of file errors. -/
def attempt {α : Type} (action : IO α) : IO (Except FileError α) := do
  try
    return .ok (← action)
  catch error =>
    return .error (describe error)
where
  /-- A system error as a file error. -/
  describe : IO.Error → FileError
    | .noFileOrDirectory _ code text | .inappropriateType _ code text
    | .alreadyExists _ code text | .permissionDenied _ code text | .resourceExhausted _ code text
    | .invalidArgument _ code text | .interrupted _ code text | .noSuchThing _ code text
    | .otherError code text | .resourceBusy code text | .resourceVanished code text
    | .unsupportedOperation code text | .hardwareFault code text
    | .unsatisfiedConstraints code text | .illegalOperation code text | .protocolError code text
    | .timeExpired code text =>
      .system code.toNat text
    | .unexpectedEof => .system 0 "unexpected end of file"
    | .userError text => .system 0 text

/-- The content of a file. Reading it fails where the path is that of a directory. -/
def readAll (path : Path) : IO ByteArray := do
  let handle ← IO.FS.Handle.mk path.text .read
  handle.readBinToEnd

instance : FileSystem IO where
  makeDirectory path := attempt (IO.FS.createDir path.text)
  isDirectory path := do
    match ← attempt (readAll path) with
    | .error error => return error = .isDirectory
    | .ok _ => return false
  write path content := attempt (IO.FS.writeFile path.text content)
  move source target := attempt (IO.FS.rename source.text target.text)
  read path := do
    match ← attempt (readAll path) with
    | .error error => return .error error
    | .ok bytes =>
      match String.fromUTF8? bytes with
      | some content => return .ok content
      | none => return .error .notText

instance : Console IO where
  out text := do (← IO.getStdout).putStr text
  err text := do (← IO.getStderr).putStr text

/-- The variables that the program looks at. -/
def relevantVariables : List String :=
  ["RXHTTP_PACKAGE", "RXHTTP_RXJAVA", "CLICOLOR_FORCE", "NO_COLOR", "CLICOLOR"]

end FluentHttp.CommandLine

open FluentHttp.CommandLine in
/-- Runs the program on the command line of the process. -/
def main (words : List String) : IO UInt32 := do
  let found ← relevantVariables.mapM fun name => return (name, ← IO.getEnv name)
  let terminal ← (← IO.getStdout).isTty
  run (fun name => (found.lookup name).join) terminal words
