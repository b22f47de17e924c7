import PlanarPipe.Posix.FileTree.Calls
import PlanarPipe.Stream.Source

/-!
# Open files

An object that is open for reading, and how far it has been read. A directory can be opened, but not
read.
-/

namespace PlanarPipe

structure OpenFile where
  object : FileTree.Opened
  /-- How many bytes were read. -/
  offset : Nat := 0
  deriving DecidableEq, Repr

namespace OpenFile

/-- The bytes still to be read; those of a pipe are what its writers put into it. -/
def rest (f : OpenFile) (t : FileTree) (inflow : Bytes) : Bytes :=
  match f.object with
  | .directory => []
  | .file stamp => (t.contentsOf stamp).drop f.offset
  | .fifo _ => inflow.drop f.offset

/-- One read call for at most `count` bytes. -/
def read (f : OpenFile) (t : FileTree) (inflow : Bytes) (count : Nat) : Except IoError Bytes × OpenFile :=
  match f.object with
  | .directory => (.error (.system .isDirectory), f)
  | _ =>
    let out := (f.rest t inflow).take count
    (.ok out, { f with offset := f.offset + out.length })

/-- The file as a source of bytes. -/
def source (f : OpenFile) (t : FileTree) (inflow : Bytes) : Source :=
  match f.object with
  | .directory => { deliveries := [.failure (.system .isDirectory)] }
  | _ => .ofBytes (f.rest t inflow)

end OpenFile

end PlanarPipe
