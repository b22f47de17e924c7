import PlanarPipe.Video.Size

/-!
# Planes

A plane is a byte string cut into rows that start `stride` bytes apart. What lies between the end of
a row and the start of the next is padding and no part of the picture.
-/

namespace PlanarPipe

/-- One plane of a frame: its bytes, and the distance between the starts of two rows. -/
structure Plane where
  data : Bytes
  stride : Nat
  deriving DecidableEq, Repr

namespace Plane

/-- `count` rows of `width` bytes, the first at the start of `data`, each `stride` bytes after the last. -/
def rowsFrom (width stride : Nat) : Nat → Bytes → List Bytes
  | 0, _ => []
  | count + 1, data => data.take width :: rowsFrom width stride count (data.drop stride)

/-- The rows of a plane without their padding. -/
def rows (p : Plane) (width count : Nat) : List Bytes := rowsFrom width p.stride count p.data

/-- Bytes a plane needs for `count` rows of `width` bytes: the last row needs no padding after it. -/
def required (stride width count : Nat) : Nat :=
  match count with
  | 0 => 0
  | above + 1 => Bytes.saturate (above * stride + width)

/-- There are as many rows as are asked for. -/
@[simp] theorem length_rowsFrom (width stride count : Nat) (data : Bytes) :
    (rowsFrom width stride count data).length = count := by
  induction count generalizing data with
  | zero => rfl
  | succ count ih => simp [rowsFrom, ih]

/-- Row `r` is cut out `r` strides into the data. -/
theorem getElem?_rowsFrom (width stride count : Nat) (data : Bytes) (r : Nat) (h : r < count) :
    (rowsFrom width stride count data)[r]? = some ((data.drop (r * stride)).take width) := by
  induction count generalizing data r with
  | zero => omega
  | succ count ih =>
    cases r with
    | zero => simp [rowsFrom]
    | succ r =>
      have split : stride + r * stride = (r + 1) * stride := by rw [Nat.add_mul]; omega
      simp [rowsFrom, ih _ r (by omega), List.drop_drop, split]

end Plane

end PlanarPipe
