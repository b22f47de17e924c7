import Mathlib.Data.Nat.ModEq
import PlanarPipe.Proofs.Video.Packed
import PlanarPipe.Video.Pattern

/-!
# What the test pattern draws

A frame of the test pattern has the samples of its size and number in its rows, whatever the rows are padded
with (`Pattern.rows_frame`), so that padding does not show in what is sent of it (`Pattern.pixels_frame`).
Frames of two sizes take turns, the size asked for and half of it, and `Pattern.sizeAt_succ_iff` says between
which frames the size changes.
-/

namespace PlanarPipe

/-- Rows that fill their stride are cut out of their concatenation again. -/
lemma Plane.rowsFrom_flatMap {row : Nat → Bytes} {width stride : Nat} (long : ∀ r, (row r).length = stride)
    (inside : width ≤ stride) (first count : Nat) :
    rowsFrom width stride count ((List.range' first count).flatMap row) =
      (List.range' first count).map fun r => (row r).take width := by
  induction count generalizing first with
  | zero => rfl
  | succ count ih =>
    rw [List.range'_succ, List.flatMap_cons, rowsFrom, List.drop_left' (long first), ih, List.map_cons,
      List.take_append_of_le_length (by rw [long]; exact inside)]

namespace Size

/-- Half of a size, but not below one pixel. -/
def half (s : Size) : Size := ⟨max (s.width / 2) 1, max (s.height / 2) 1⟩

/-- Both sides of a size are at most those of another. -/
def Within (s big : Size) : Prop := s.width.toNat ≤ big.width.toNat ∧ s.height.toNat ≤ big.height.toNat

variable {s big : Size}

/-- A size has pixels just if both sides are above zero. -/
lemma sides_pos_iff : s.isEmpty = false ↔ 0 < s.width.toNat ∧ 0 < s.height.toNat := by
  rw [isEmpty_eq_false_iff, ne_eq, ne_eq, ← UInt32.toNat_inj, ← UInt32.toNat_inj, Nat.pos_iff_ne_zero,
    Nat.pos_iff_ne_zero]
  rfl

/-- The larger of a word and one, as a natural number. -/
lemma toNat_max_one (n : UInt32) : (max n 1).toNat = max n.toNat 1 := by
  rw [show max n 1 = if n ≤ 1 then 1 else n from rfl]
  split
  case isTrue small =>
    exact (Nat.max_eq_right (UInt32.le_iff_toNat_le.1 small)).symm
  case isFalse large =>
    exact (Nat.max_eq_left (Nat.le_of_not_le (mt UInt32.le_iff_toNat_le.2 large))).symm

/-- Half of a side, but not below one, as a natural number. -/
lemma toNat_half (n : UInt32) : (max (n / 2) 1).toNat = max (n.toNat / 2) 1 := by
  rw [toNat_max_one, UInt32.toNat_div]
  rfl

/-- Half of a size has pixels. -/
lemma isEmpty_half (s : Size) : s.half.isEmpty = false := by
  rw [sides_pos_iff, half, toNat_half, toNat_half]
  omega

/-- Half of a size with pixels is no larger than the size. -/
lemma half_within (pixels : s.isEmpty = false) : s.half.Within s := by
  rw [sides_pos_iff] at pixels
  rw [Within, half, toNat_half, toNat_half]
  omega

/-- Only a single pixel is not made smaller by halving. -/
lemma half_eq_iff (pixels : s.isEmpty = false) : s.half = s ↔ s = ⟨1, 1⟩ := by
  rw [sides_pos_iff] at pixels
  constructor
  · intro same
    have width := congrArg (fun s : Size => s.width.toNat) same
    have height := congrArg (fun s : Size => s.height.toNat) same
    simp only [half, toNat_half] at width height
    have one : s.width.toNat = 1 ∧ s.height.toNat = 1 := by omega
    obtain ⟨width, height⟩ := s
    exact congrArg₂ Size.mk (UInt32.toNat_inj.1 one.1) (UInt32.toNat_inj.1 one.2)
  · rintro rfl
    rfl

/-- The planes of a smaller size are no wider and no higher. -/
lemma Within.sides (within : s.Within big) (c : Channel) :
    s.rowBytes c ≤ big.rowBytes c ∧ s.rows c ≤ big.rows c := by
  obtain ⟨width, height⟩ := within
  cases c with
  | luma => exact ⟨width, height⟩
  | blue | red =>
    simp only [rowBytes, rows, plane, chroma, UInt32.toNat_div]
    exact ⟨Nat.div_le_div_right width, Nat.div_le_div_right height⟩

/-- A frame of a smaller size takes no more bytes. -/
lemma Within.frameBytes_le (within : s.Within big) : s.frameBytes ≤ big.frameBytes := by
  have planes : ∀ c, s.exactPlane c ≤ big.exactPlane c := fun c =>
    Nat.mul_le_mul (within.sides c).1 (within.sides c).2
  have exact : s.exactBytes ≤ big.exactBytes := by
    rw [exactBytes_eq, exactBytes_eq]
    exact Nat.add_le_add (Nat.add_le_add (planes _) (planes _)) (planes _)
  rw [frameBytes_eq, frameBytes_eq, Bytes.saturate, Bytes.saturate]
  omega

/-- No plane is wider or higher than the first. -/
lemma sides_le_luma (s : Size) (c : Channel) : s.rowBytes c ≤ s.width.toNat ∧ s.rows c ≤ s.height.toNat := by
  cases c with
  | luma => exact ⟨Nat.le_refl _, Nat.le_refl _⟩
  | blue | red =>
    simp only [rowBytes, rows, plane, chroma, UInt32.toNat_div]
    exact ⟨Nat.div_le_self .., Nat.div_le_self ..⟩

end Size

namespace Pattern

variable {size base : Size} {every : Option UInt64}

/-- The samples of frame `index`, row by row and plane by plane. -/
def samples (size : Size) (index : UInt64) : Bytes :=
  Channel.all.flatMap fun c =>
    (List.range (size.rows c)).flatMap fun row =>
      (List.range (size.rowBytes c)).map fun col => sample c (UInt64.ofNat col) (UInt64.ofNat row) index

/-- A row is drawn with its padding. -/
lemma length_drawRow (c : Channel) (width pad : Nat) (row index : UInt64) :
    (drawRow c width pad row index).length = width + pad := by
  rw [drawRow, List.length_append, List.length_map, List.length_range, List.length_replicate]

/-- The front of a row that was drawn is its samples. -/
lemma take_drawRow (c : Channel) (width pad : Nat) (row index : UInt64) :
    (drawRow c width pad row index).take width =
      (List.range width).map fun col => sample c (UInt64.ofNat col) row index := by
  rw [drawRow, List.take_left' (by rw [List.length_map, List.length_range])]

/-- A plane is drawn row by row, each with its padding. -/
lemma length_drawPlane (size : Size) (pad : Nat) (index : UInt64) (c : Channel) :
    (drawPlane size pad index c).length = size.rows c * (size.rowBytes c + pad) := by
  rw [drawPlane, List.length_flatMap]
  simp only [length_drawRow, List.map_const', List.length_range, List.sum_replicate_nat]

/-- A plane that was drawn holds its rows. -/
lemma drawPlane_fits (size : Size) (pad : Nat) (index : UInt64) (c : Channel) :
    Plane.Fits ⟨drawPlane size pad index c, size.rowBytes c + pad⟩ size c := by
  refine ⟨Nat.le_add_right .., ?_⟩
  rw [length_drawPlane]
  cases size.rows c with
  | zero => exact Nat.zero_le _
  | succ above =>
    rw [Plane.required, Nat.succ_mul]
    exact Nat.le_trans (Nat.min_le_left ..) (Nat.add_le_add_left (Nat.le_add_right ..) _)

/-- Frame `index` of a size with pixels, its rows padded with `pad` bytes. -/
def frame (pixels : size.isEmpty = false) (pad : Nat) (index : UInt64) (pts : Option Int64) : Frame where
  size := size
  plane c := ⟨drawPlane size pad index c, size.rowBytes c + pad⟩
  pts := pts
  size_ne := pixels
  fits := drawPlane_fits size pad index

/-- Frames of a size with pixels can always be drawn. -/
lemma render_eq (p : Pattern) (pixels : size.isEmpty = false) (index : UInt64) (pts : Option Int64) :
    p.render size index pts =
      (.ok (frame pixels p.pad index pts), { p with planes := drawPlane size p.pad index }) := by
  rw [render, Frame.build_of_fits pixels (drawPlane_fits size p.pad index)]
  rfl

variable (pixels : size.isEmpty = false) (pad : Nat) (index : UInt64) (pts : Option Int64)

/-- The rows of a frame that was drawn are its samples. -/
lemma rows_frame (c : Channel) :
    (frame pixels pad index pts).rows c = (List.range (size.rows c)).map fun row =>
      (List.range (size.rowBytes c)).map fun col => sample c (UInt64.ofNat col) (UInt64.ofNat row) index := by
  have cut := Plane.rowsFrom_flatMap
    (fun row => length_drawRow c (size.rowBytes c) pad (UInt64.ofNat row) index) (Nat.le_add_right ..) 0 (size.rows c)
  rw [← List.range_eq_range'] at cut
  simp only [take_drawRow] at cut
  exact cut

/-- What is sent of a frame is its samples, whatever its padding. -/
lemma pixels_frame : (frame pixels pad index pts).pixels = samples size index := by
  simp only [Frame.pixels, rows_frame, samples, List.flatMap]

/-- All planes are held in memory if the first one is. -/
lemma frame_addressable (within : size.Within base)
    (room : (base.width.toNat + pad) * base.height.toNat ≤ Bytes.maxSlice) :
    (frame pixels pad index pts).Addressable := by
  intro c
  obtain ⟨wide, high⟩ := size.sides_le_luma c
  obtain ⟨width, height⟩ := within
  have plane : (drawPlane size pad index c).length ≤ base.height.toNat * (base.width.toNat + pad) := by
    rw [length_drawPlane]
    exact Nat.mul_le_mul (by omega) (by omega)
  rw [Nat.mul_comm] at plane
  exact plane.trans room

/-- A frame has the size asked for or half of it. -/
lemma sizeAt_cases (base : Size) (index : UInt64) (every : Option UInt64) :
    sizeAt base index every = base ∨ sizeAt base index every = base.half := by
  rw [sizeAt.eq_def]
  cases every with
  | none => exact .inl rfl
  | some every =>
    simp only
    split
    · exact .inr rfl
    · exact .inl rfl

/-- Either way it has pixels. -/
lemma isEmpty_sizeAt (pixels : base.isEmpty = false) (index : UInt64) (every : Option UInt64) :
    (sizeAt base index every).isEmpty = false := by
  rcases sizeAt_cases base index every with same | half
  · rw [same, pixels]
  · rw [half, base.isEmpty_half]

/-- Either way it is no larger than the size asked for. -/
lemma sizeAt_within (pixels : base.isEmpty = false) (index : UInt64) (every : Option UInt64) :
    (sizeAt base index every).Within base := by
  rcases sizeAt_cases base index every with same | half
  · rw [same]
    exact ⟨Nat.le_refl _, Nat.le_refl _⟩
  · rw [half]
    exact Size.half_within pixels

/-- The size is halved in every other run of frames. -/
lemma sizeAt_ofNat {n : UInt64} (positive : n ≠ 0) {i : Nat} (small : i < UInt64.size) :
    sizeAt base (UInt64.ofNat i) (some n) = if i / n.toNat % 2 = 1 then base.half else base := by
  have run : UInt64.ofNat i / n % 2 = 1 ↔ i / n.toNat % 2 = 1 := by
    rw [← UInt64.toNat_inj, UInt64.toNat_mod, UInt64.toNat_div, UInt64.toNat_ofNat_of_lt' small]
    rfl
  simp only [sizeAt, positive, ne_eq, not_false_eq_true, true_and, run, Size.half]

/-- The size changes at the multiples of the length of a run, unless it cannot be halved. -/
lemma sizeAt_succ_iff (pixels : base.isEmpty = false) {i : Nat} (small : i + 1 < UInt64.size) :
    sizeAt base (UInt64.ofNat i) every ≠ sizeAt base (UInt64.ofNat (i + 1)) every ↔
      base ≠ ⟨1, 1⟩ ∧ ∃ n, every = some n ∧ n ≠ 0 ∧ n.toNat ∣ i + 1 := by
  have differ : base.half ≠ base ↔ base ≠ ⟨1, 1⟩ := not_congr (Size.half_eq_iff pixels)
  cases every with
  | none => simp [sizeAt]
  | some n =>
    by_cases zero : n = 0
    · simp [sizeAt, zero]
    · rw [sizeAt_ofNat zero (by omega), sizeAt_ofNat zero small, Nat.succ_div]
      by_cases turn : n.toNat ∣ i + 1
      · simp only [turn, if_true, ← differ]
        by_cases odd : i / n.toNat % 2 = 1
        · have next : ¬(i / n.toNat + 1) % 2 = 1 := by omega
          simp [odd, next, zero, turn]
        · have next : (i / n.toNat + 1) % 2 = 1 := by omega
          simp [odd, next, zero, turn, eq_comm]
      · simp [turn]

end Pattern

end PlanarPipe
