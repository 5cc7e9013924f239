import FluentHttp.Files.System

/-!
# FluentHttp.Files.Store

A file system as a value: a map from places to files and directories. Its operations refuse what an
operating system refuses, for the same reasons and in the same order.

A disk is a store with faults to come, so that what happens to a program whose operations fail at
any point can be said of the program itself.
-/

namespace FluentHttp.Files

/-! ### Stores -/

/-- A place in a file system: the names that lead to it from the root. -/
abbrev Place := List String

/-- What stands at a place. -/
inductive Node where
  | directory
  | file (content : String)
  deriving DecidableEq, Repr

/-- A file system, with the directory that relative paths start from. -/
structure Store where
  nodes : List (Place × Node) := []
  workingDirectory : Place := []
  deriving DecidableEq, Repr, Inhabited

namespace Store

/-- What stands at a place. The root is always a directory. -/
def node? (store : Store) (place : Place) : Option Node :=
  if place = [] then some .directory else store.nodes.lookup place

/-- The content of the file at a place. -/
def content? (store : Store) (place : Place) : Option String :=
  match store.node? place with
  | some (.file content) => some content
  | some .directory | none => none

/-- The store without what stands at a place. -/
def erase (store : Store) (place : Place) : Store :=
  { store with nodes := store.nodes.filter fun entry => entry.1 != place }

/-- The store with something put at a place, instead of what stands there. -/
def put (store : Store) (place : Place) (node : Node) : Store :=
  { store with nodes := (place, node) :: (store.erase place).nodes }

/-! ### Finding places -/

/-- The longest name, in bytes. -/
def nameLimit : Nat := 255

/-- The longest path, in bytes. -/
def pathLimit : Nat := 4095

/-- Whether a piece of a path leads nowhere. -/
def isStill (piece : String) : Bool :=
  piece == "" || piece == "."

/-- Walks from a directory along pieces that have to be directories. -/
def walk (store : Store) : Place → List String → Except FileError Place
  | here, [] => .ok here
  | here, piece :: rest =>
    if isStill piece then walk store here rest
    else if piece = ".." then walk store here.dropLast rest
    else if nameLimit < piece.utf8ByteSize then .error .nameTooLong
    else
      let next := here ++ [piece]
      match store.node? next with
      | none => .error .notFound
      | some (.file _) => .error .notDirectory
      | some .directory => walk store next rest

/-- The pieces of a path, checked for being a path at all. -/
def checkedPieces (path : Path) : Except FileError (List String) :=
  if path.text.contains '\x00' then .error .nulInPath
  else if path.text.isEmpty then .error .notFound
  else if pathLimit < path.text.utf8ByteSize then .error .nameTooLong
  else .ok path.pieces

/-- Where a path starts. -/
def start (store : Store) (path : Path) : Place :=
  if path.absolute then [] else store.workingDirectory

/-- The place that a path leads to as the path of a directory. -/
def findDirectory (store : Store) (path : Path) : Except FileError Place := do
  let pieces ← checkedPieces path
  store.walk (store.start path) pieces

/-- The end of a path. -/
structure Ending where
  /-- The directory that the end is looked up in. -/
  directory : Place
  /-- The name, unless the path ends with a step to some directory. -/
  name : Option String
  /-- Slashes follow, so that only a directory is meant. -/
  slashed : Bool

/-- The end of a path, when everything before it is a directory. -/
def findEnding (store : Store) (path : Path) : Except FileError Ending := do
  let pieces ← checkedPieces path
  let spelled := (pieces.reverse.dropWhile (· == "")).reverse
  match spelled.getLast? with
  | none => return { directory := store.start path, name := none, slashed := true }
  | some last =>
    let directory ← store.walk (store.start path) spelled.dropLast
    let slashed := spelled.length < pieces.length
    if last = "." ∨ last = ".." then return { directory, name := none, slashed }
    else if nameLimit < last.utf8ByteSize then .error .nameTooLong
    else return { directory, name := some last, slashed }

/-! ### Operations -/

/-- Makes a directory. -/
def makeDirectory (store : Store) (path : Path) : Except FileError Store := do
  let ending ← store.findEnding path
  match ending.name with
  | none => .error .alreadyExists
  | some name =>
    let place := ending.directory ++ [name]
    match store.node? place with
    | some _ => .error .alreadyExists
    | none => return store.put place .directory

/-- Whether a path leads to a directory. -/
def isDirectory (store : Store) (path : Path) : Bool :=
  match store.findDirectory path with
  | .ok _ => true
  | .error _ => false

/-- The place that a file is written to. -/
def findTarget (store : Store) (path : Path) : Except FileError Place := do
  let ending ← store.findEnding path
  match ending.name, ending.slashed with
  | some name, false =>
    let place := ending.directory ++ [name]
    match store.node? place with
    | some .directory => .error .isDirectory
    | some (.file _) | none => return place
  | _, _ => .error .isDirectory

/-- Writes a file. -/
def write (store : Store) (path : Path) (content : String) : Except FileError Store := do
  return store.put (← store.findTarget path) (.file content)

/-- The content of the file that a path leads to. -/
def read (store : Store) (path : Path) : Except FileError String := do
  let ending ← store.findEnding path
  match ending.name with
  | none => do
    let _ ← store.findDirectory path
    .error .isDirectory
  | some name =>
    match store.node? (ending.directory ++ [name]) with
    | none => .error .notFound
    | some .directory => .error .isDirectory
    | some (.file content) => if ending.slashed then .error .notDirectory else return content

/-- Moves a file. A file that is moved to its own place stays. Directories are not moved. -/
def move (store : Store) (source target : Path) : Except FileError Store := do
  let origin ← store.findEnding source
  let goal ← store.findEnding target
  match origin.name, goal.name with
  | some oldName, some newName =>
    let old := origin.directory ++ [oldName]
    let new := goal.directory ++ [newName]
    match store.node? old with
    | none => .error .notFound
    | some .directory => .error .isDirectory
    | some (.file content) =>
      if origin.slashed || goal.slashed then .error .notDirectory
      else if store.node? new = some .directory then .error .isDirectory
      else return (store.erase old).put new (.file content)
  | _, _ => .error .busy

end Store

/-! ### Disks -/

/-- What may befall an operation. -/
structure Fault where
  error : FileError
  /-- What a write that breaks off leaves in the file, if it got as far as opening it. -/
  leftover : Option String := none
  deriving DecidableEq, Repr

/-- A store together with what befalls the operations to come. -/
structure Disk where
  store : Store := {}
  /-- One entry for each operation; an operation beyond them is not disturbed. -/
  faults : List (Option Fault) := []
  deriving DecidableEq, Repr, Inhabited

namespace Disk

/-- An operation on the store of a disk, and what is left of the store if a fault befalls it. -/
def operate {α : Type} (action : Store → Except FileError (α × Store))
    (broken : Fault → Store → Store) : StateM Disk (Except FileError α) := fun disk =>
  match disk.faults with
  | some fault :: faults => (.error fault.error, { store := broken fault disk.store, faults })
  | [] | none :: _ =>
    let faults := disk.faults.tail
    match action disk.store with
    | .ok (value, store) => (.ok value, { store, faults })
    | .error error => (.error error, { disk with faults })

/-- What a broken write leaves of a store. -/
def brokenWrite (path : Path) (fault : Fault) (store : Store) : Store :=
  match fault.leftover, store.findTarget path with
  | some leftover, .ok place => store.put place (.file leftover)
  | _, _ => store

end Disk

instance : FileSystem (StateM Disk) where
  makeDirectory path :=
    Disk.operate (fun store => (store.makeDirectory path).map ((), ·)) fun _ store => store
  isDirectory path := do
    let answer ← Disk.operate (fun store => .ok (store.isDirectory path, store)) fun _ store => store
    match answer with
    | .ok answer => return answer
    | .error _ => return false
  write path content :=
    Disk.operate (fun store => (store.write path content).map ((), ·)) (Disk.brokenWrite path)
  move source target :=
    Disk.operate (fun store => (store.move source target).map ((), ·)) fun _ store => store
  read path :=
    Disk.operate (fun store => (store.read path).map (·, store)) fun _ store => store

end FluentHttp.Files
