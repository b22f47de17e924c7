import PlanarPipe.Report.Format
import PlanarPipe.Text.Json
import PlanarPipe.Text.Table

/-!
# Printing summaries

What is printed at the end of a stream: the pipe, what went through it, the last time stamp, and
whether the stream ended before its time.
-/

namespace PlanarPipe

structure Summary where
  path : String
  frames : Nat
  bytes : Nat
  lastStamp : Option Int64
  stopped : Bool
  deriving DecidableEq, Repr

namespace Summary

/-- The columns of a table of a summary. -/
def header : List String := ["PIPE", "FRAMES", "BYTES", "LAST_TS_US", "STOPPED"]

def print (s : Summary) : Format → String
  | .json | .raw =>
    JsonValue.object
      [("path", .text s.path), ("frames", .whole s.frames), ("bytes", .whole s.bytes),
        ("last_timestamp_us", s.lastStamp.elim .null fun t => .whole t.toInt),
        ("stopped", .truth s.stopped)] ++ "\n"
  | .table =>
    Text.table header
      [s.path, toString s.frames, toString s.bytes,
        s.lastStamp.elim "-" fun t => toString t.toInt, toString s.stopped] ++ "\n"
  | .pretty =>
    s!"pipe={s.path} frames={s.frames} bytes={s.bytes} stopped={s.stopped}\n"

end Summary

end PlanarPipe
