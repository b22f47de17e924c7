import PlanarPipe.Video.Frame

/-!
# The test pattern

A gradient that moves by two pixels with every frame. Rows may be followed by padding of a fixed byte,
which is no part of the picture. All arithmetic is that of 64-bit words and wraps around.
-/

namespace PlanarPipe

/-- The source of test frames: bytes of padding after each row, and the planes drawn last. -/
structure Pattern where
  pad : Nat
  planes : Channel → Bytes

namespace Pattern

def padByte : UInt8 := 0xEE

/-- A source that has drawn nothing yet. -/
def start (pad : Nat) : Pattern := { pad, planes := fun _ => [] }

/-- The sample of a plane at a column and row of frame `index`. -/
def sample (c : Channel) (col row index : UInt64) : UInt8 :=
  let shift := index * 2
  match c with
  | .luma => (col + row + shift).toUInt8
  | .blue => 128 + ((col + shift) / 4).toUInt8
  | .red => 128 - ((row + shift) / 4).toUInt8

/-- One row of a plane, with its padding. -/
def drawRow (c : Channel) (width pad : Nat) (row index : UInt64) : Bytes :=
  ((List.range width).map fun col => sample c (UInt64.ofNat col) row index) ++
    List.replicate pad padByte

/-- A plane of frame `index`, with the padding of its rows. -/
def drawPlane (size : Size) (pad : Nat) (index : UInt64) (c : Channel) : Bytes :=
  (List.range (size.rows c)).flatMap fun row =>
    drawRow c (size.rowBytes c) pad (UInt64.ofNat row) index

def render (p : Pattern) (size : Size) (index : UInt64) (pts : Option Int64) :
    Except FrameError Frame × Pattern :=
  let planes := drawPlane size p.pad index
  let frame := Frame.build size
    (fun c => { data := planes c, stride := size.rowBytes c + p.pad }) pts
  (frame, { p with planes })

/-- The size of frame `index`: `base`, halved on every other run of `every` frames but not below one
pixel. -/
def sizeAt (base : Size) (index : UInt64) : Option UInt64 → Size
  | none => base
  | some every =>
    if every ≠ 0 ∧ index / every % 2 = 1 then
      ⟨max (base.width / 2) 1, max (base.height / 2) 1⟩
    else base

end Pattern

end PlanarPipe
