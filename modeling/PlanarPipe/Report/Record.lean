import PlanarPipe.Decimal.Text
import PlanarPipe.Posix.IoError
import PlanarPipe.Report.Format
import PlanarPipe.Text.Json
import PlanarPipe.Text.Table
import PlanarPipe.Wire.Record

/-!
# Printing records

What is printed for a record: its size and, for a picture, the time stamp, the length of the payload
and the mean of the luma samples; or, in raw form, the payload of a picture and nothing else.
-/

namespace PlanarPipe

/-- What is printed: a text, or bytes as they are. -/
inductive Printout where
  | text (s : String)
  | bytes (b : Bytes)
  deriving DecidableEq, Repr

def Printout.toBytes : Printout → Bytes
  | text s => s.toUTF8.data.toList
  | bytes b => b

namespace Report

/-- The mean of samples, as the nearest double; zero if there are none. -/
def mean (samples : Bytes) : Binary64 :=
  let (sum, count) := samples.foldl (fun (sum, count) b => (sum + b.toNat, count + 1)) (0, 0)
  Binary64.ofRatio sum count

/-- The columns of a table of records. -/
def recordHeader : List String := ["RECORD", "SIZE", "TIMESTAMP_US", "BYTES", "MEAN_Y"]

def announcement (format : Format) (size : Size) : Printout :=
  match format with
  | .json => .text <| JsonValue.object
      [("kind", .text "dimensions"), ("width", .whole size.width.toNat),
        ("height", .whole size.height.toNat)] ++ "\n"
  | .table => .text <| Text.table recordHeader ["DIMENSIONS", size.text, "-", "-", "-"] ++ "\n"
  | .pretty => .text s!"dimensions {size.text}\n"
  | .raw => .bytes []

def picture (format : Format) (p : Picture) : Printout :=
  let stamp := p.stamp.toInt
  let length := p.payload.length
  match format with
  | .json => .text <| JsonValue.object
      [("kind", .text "frame"), ("width", .whole p.size.width.toNat),
        ("height", .whole p.size.height.toNat), ("timestamp_us", .whole stamp),
        ("payload_size", .whole length), ("mean_luma", .number (mean (p.plane .luma)).text)] ++ "\n"
  | .table => .text <| Text.table recordHeader
      ["FRAME", p.size.text, toString stamp, toString length,
        (mean (p.plane .luma)).textOnePlace] ++ "\n"
  | .pretty =>
    let mean := (mean (p.plane .luma)).textOnePlace
    .text s!"frame {p.size.text} ts={stamp}us bytes={length} mean_y={mean}\n"
  | .raw => .bytes p.payload

def record (format : Format) : Record → Printout
  | .announcement size => announcement format size
  | .picture p => picture format p

end Report

inductive Output where
  | healthy
  | closed
  deriving DecidableEq, Repr

/-- Printing to a closed output fails unless there is nothing to print. -/
def Output.print (out : Output) (p : Printout) : Except IoError Bytes :=
  match out with
  | .healthy => .ok p.toBytes
  | .closed => if p.toBytes.isEmpty then .ok [] else .error (.system .brokenPipe)

end PlanarPipe
