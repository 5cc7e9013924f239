import FluentHttp.CommandLine.Program
import FluentHttp.Files.Store

/-!
# FluentHttp.CommandLine.Machine

A machine to run the program on, as a value: a disk, and the texts of the two outputs.
-/

namespace FluentHttp.CommandLine

open Files

/-- A disk and what a program has written to its outputs. -/
structure Machine where
  disk : Disk := {}
  output : String := ""
  errors : String := ""
  deriving DecidableEq, Repr, Inhabited

namespace Machine

/-- Does something with the disk of a machine. -/
def onDisk {α : Type} (action : StateM Disk α) : StateM Machine α := fun machine =>
  let (value, disk) := action machine.disk
  (value, { machine with disk })

end Machine

instance : FileSystem (StateM Machine) where
  makeDirectory path := Machine.onDisk (FileSystem.makeDirectory path)
  isDirectory path := Machine.onDisk (FileSystem.isDirectory path)
  write path content := Machine.onDisk (FileSystem.write path content)
  move source target := Machine.onDisk (FileSystem.move source target)
  read path := Machine.onDisk (FileSystem.read path)

instance : Console (StateM Machine) where
  out text := modify fun machine => { machine with output := machine.output ++ text }
  err text := modify fun machine => { machine with errors := machine.errors ++ text }

end FluentHttp.CommandLine
