import PlanarPipe.Bytes.Basic

/-!
# Frame sizes

A frame is a luma plane and two chroma planes of half its width and height, rounded down. This module
says how many bytes each plane and the whole frame take, row by row and in total.
-/

namespace PlanarPipe

/-- The three planes of a frame, in the order in which they are sent. -/
inductive Channel where
  | luma
  | blue
  | red
  deriving DecidableEq, Repr

namespace Channel

def all : List Channel := [luma, blue, red]

/-- The letter that names a plane in messages. -/
def letter : Channel → String
  | luma => "Y"
  | blue => "U"
  | red => "V"

/-- The place of a plane in sending order. -/
def index : Channel → Nat
  | luma => 0
  | blue => 1
  | red => 2

end Channel

structure Size where
  width : UInt32
  height : UInt32
  deriving DecidableEq, Repr

namespace Size

/-- The size that stands for "none announced yet"; no frame has it. -/
def unset : Size := ⟨0, 0⟩

/-- Half of the size in both directions, rounded down: the size of a chroma plane. -/
def chroma (s : Size) : Size := ⟨s.width / 2, s.height / 2⟩

def plane (s : Size) : Channel → Size
  | .luma => s
  | .blue | .red => s.chroma

/-- Bytes in one row of a plane. -/
def rowBytes (s : Size) (c : Channel) : Nat := (s.plane c).width.toNat

def rows (s : Size) (c : Channel) : Nat := (s.plane c).height.toNat

/-- Bytes of a plane without padding, as a word. -/
def planeBytes (s : Size) (c : Channel) : Nat := Bytes.saturate (s.rowBytes c * s.rows c)

/-- Bytes of a frame without padding, as a word. -/
def frameBytes (s : Size) : Nat :=
  Bytes.saturate (s.planeBytes .luma + Bytes.saturate (s.planeBytes .blue * 2))

/-- Bytes of a frame without padding, counted without a bound. -/
def exactBytes (s : Size) : Nat :=
  s.width.toNat * s.height.toNat + 2 * ((s.width.toNat / 2) * (s.height.toNat / 2))

def isEmpty (s : Size) : Bool := s.width == 0 || s.height == 0

/-- A size with pixels takes some bytes. -/
theorem frameBytes_pos {s : Size} (h : s.isEmpty = false) : 0 < s.frameBytes := by
  simp only [isEmpty, Bool.or_eq_false_iff, beq_eq_false_iff_ne, ne_eq, ← UInt32.toNat_inj] at h
  have width : 0 < s.width.toNat := Nat.pos_of_ne_zero h.1
  have height : 0 < s.height.toNat := Nat.pos_of_ne_zero h.2
  have luma : 0 < s.rowBytes .luma * s.rows .luma := Nat.mul_pos width height
  simp only [frameBytes, planeBytes, Bytes.saturate, Bytes.maxWord]
  omega

def text (s : Size) : String := s!"{s.width}x{s.height}"

end Size

end PlanarPipe
