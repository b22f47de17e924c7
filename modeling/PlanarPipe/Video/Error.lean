import PlanarPipe.Video.Size
import PlanarPipe.Posix.IoError

/-!
# What can be wrong with frames

The ways in which a frame cannot be put together and in which a stream of frames cannot be read on.
-/

namespace PlanarPipe

inductive FrameError where
  | emptySize (size : Size)
  | badTimeBase (num den : Int32)
  /-- The rows of a plane start closer together than they are long. -/
  | narrowStride (channel : Channel) (stride rowBytes : Nat)
  | shortPlane (channel : Channel) (len required : Nat)
  /-- A picture came before its size was announced. -/
  | sizeUnknown
  | oversize (size limit : Nat)
  | readFailed (cause : IoError)
  /-- The stream ended inside a record, or where one was asked for. -/
  | ended
  deriving DecidableEq, Repr

namespace FrameError

def message : FrameError → String
  | emptySize size => s!"invalid frame dimensions {size.text}"
  | badTimeBase num den => s!"invalid time base {num}/{den}"
  | narrowStride channel stride rowBytes =>
    s!"{channel.letter} plane stride {stride} is smaller than row width {rowBytes}"
  | shortPlane channel len required =>
    s!"{channel.letter} plane holds {len} bytes, {required} required"
  | sizeUnknown => "frame record received before any dimension record"
  | oversize size limit => s!"frame too large ({size} bytes, max {limit})"
  | readFailed cause => s!"frame I/O error: {cause.message}"
  | ended => "connection closed (incomplete record)"

/-- The text of the error behind this one, if there is one. -/
def source : FrameError → Option String
  | readFailed cause => some cause.message
  | _ => none

end FrameError

end PlanarPipe
