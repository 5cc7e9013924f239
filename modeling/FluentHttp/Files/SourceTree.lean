import FluentHttp.Files.System
import FluentHttp.Java.Printer

/-!
# FluentHttp.Files.SourceTree

The directory tree of generated sources: a directory for each segment of the package, and in the
last one a file named for the class.
-/

namespace FluentHttp.Files

/-- Where the source of a class goes below a root. -/
def sourcePath (root : Path) (decl : Java.ClassDecl) : Path :=
  let segments := (Text.segments '.' decl.package).filter (!·.isEmpty)
  let directory := segments.foldl (fun path segment => path.push (.ofText segment)) root
  directory.push (.ofText (decl.name ++ ".java"))

/-- Writes the source of a class below a root, and notes its path after the paths written so far. -/
def writeSource {m : Type → Type} [Monad m] [FileSystem m] (root : Path) (decl : Java.ClassDecl) :
    ExceptT WriteError (StateT (List Path) m) Unit := do
  let path := sourcePath root decl
  ExceptT.mk (StateT.lift (writeAtomic path decl.source).run)
  modify (· ++ [path])

end FluentHttp.Files
