import PlanarPipe.Fifo.Owner
import PlanarPipe.Wire.Record

/-!
# The version

What the program tells about itself.
-/

namespace PlanarPipe

/-- The machine that the program was made for and runs on. -/
structure Host where
  target : String
  system : String
  processor : String
  deriving DecidableEq, Repr

namespace Version

def number : String := "0.1.0"

/-- The name and version of the program, on one line. -/
def short : String := s!"yuvpipe {number}\n"

/-- The version with what the program was made for and what it speaks. -/
def extended (host : Host) : String :=
  let tag := String.ofList (Wire.tag.map fun b => Char.ofNat b.toNat)
  let mode := String.ofList (Nat.toDigits 8 Owner.standardMode)
  String.join
    ["name: yuvpipe\n",
      s!"version: {number}\n",
      s!"build_target: {host.target}\n",
      s!"target_os: {host.system}\n",
      s!"target_arch: {host.processor}\n",
      s!"wire: \"{tag}\" dimension record ({Wire.announcementLength} bytes), ",
      s!"{Wire.stampLength}-byte timestamp, yuv420p payload\n",
      s!"fifo_mode: 0o{mode}\n"]

end Version

end PlanarPipe
