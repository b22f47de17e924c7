import PlanarPipe.Fifo.Error
import PlanarPipe.Log.Event
import PlanarPipe.Posix.OpenFile
import PlanarPipe.Text.Quoted

/-!
# Reading from a named pipe

A reader attaches to whatever its path leads to. Its end of the pipe can be read and not written.
-/

namespace PlanarPipe

inductive PipeEnd where
  | writer
  | reader
  deriving DecidableEq, Repr

namespace PipeEnd

def name : PipeEnd → String
  | writer => "Writer"
  | reader => "Reader"

/-- An open end as it shows itself in messages. -/
def describe (e : PipeEnd) : String := s!"PipeStream \x7b type: \"fifo\", role: {e.name} \x7d"

/-- What comes of a read from an end or a write to it that it is not open for. -/
def misused : IoError := .system .badDescriptor

/-- The event of having opened the reading end of the pipe at a path. -/
def opened (path : String) : Event :=
  { level := .debug, origin := .stream, message := "opened fifo for reading"
    fields := [("path", .words (Text.quoted path))] }

/-- Opens the reading end of the pipe at a path. A process may have no descriptor to spare. -/
def attach (path : String) (t : FileTree) (spare : Bool) : List Event × Except FifoError OpenFile :=
  match t.openToRead path spare with
  | .error cause => ([], .error (.notOpened path cause))
  | .ok object => ([opened path], .ok { object })

end PipeEnd

end PlanarPipe
