import Mathlib.Tactic.Lemma
import PlanarPipe.Video.Frame
import PlanarPipe.Wire.Record

/-!
# How many bytes a frame takes

Sizes are counted in words, which saturate. A plane never does (`Size.planeBytes_eq`), and a frame
does only when its exact count is beyond a word (`Size.frameBytes_eq`). What a frame sends is then as
long as its size says: `Frame.length_pixels` for the whole of it, `Frame.plane_pixels` for the place
of each plane in it.

A slice of memory holds at most `Bytes.maxSlice` bytes. `Frame.Addressable` says so of the planes of a
frame, and it is all that is asked for the counts above to be exact (`Frame.exactBytes_le`). What a
frame sends is then as long as the count of its size (`Frame.Exact`), which is all that writing asks.
-/

namespace PlanarPipe

/-- The most bytes that one slice of memory holds: as many as a signed word counts. -/
def Bytes.maxSlice : Nat := 0x7FFF_FFFF_FFFF_FFFF

namespace Size

def exactPlane (s : Size) (c : Channel) : Nat := s.rowBytes c * s.rows c

/-- A size is empty just if a side is zero. -/
lemma isEmpty_iff {s : Size} : s.isEmpty = true ↔ s.width = 0 ∨ s.height = 0 := by
  rw [isEmpty, Bool.or_eq_true, beq_iff_eq, beq_iff_eq]

/-- A size has pixels just if neither side is zero. -/
lemma isEmpty_eq_false_iff {s : Size} : s.isEmpty = false ↔ s.width ≠ 0 ∧ s.height ≠ 0 := by
  rw [isEmpty, Bool.or_eq_false_iff, beq_eq_false_iff_ne, beq_eq_false_iff_ne]

/-- No plane is wider or higher than a 32-bit word counts. -/
lemma sides_lt (s : Size) (c : Channel) :
    s.rowBytes c ≤ 0xFFFF_FFFF ∧ s.rows c ≤ 0xFFFF_FFFF := by
  have width := (s.plane c).width.toNat_lt
  have height := (s.plane c).height.toNat_lt
  simp only [rowBytes, rows]
  omega

/-- A plane is counted exactly: a product of two 32-bit sides fits in a word. -/
lemma planeBytes_eq (s : Size) (c : Channel) : s.planeBytes c = s.exactPlane c := by
  obtain ⟨width, height⟩ := s.sides_lt c
  apply Bytes.saturate_of_le
  calc s.rowBytes c * s.rows c
      ≤ 0xFFFF_FFFF * 0xFFFF_FFFF := Nat.mul_le_mul width height
    _ ≤ Bytes.maxWord := by decide

/-- The chroma planes are alike. -/
lemma exactPlane_red (s : Size) : s.exactPlane .red = s.exactPlane .blue := rfl

/-- A chroma plane has half the columns and half the rows, both rounded down. -/
lemma exactPlane_blue (s : Size) :
    s.exactPlane .blue = s.width.toNat / 2 * (s.height.toNat / 2) := by
  simp [exactPlane, rowBytes, rows, plane, chroma]

/-- The bytes of a frame are those of its planes. -/
lemma exactBytes_eq (s : Size) :
    s.exactBytes = s.exactPlane .luma + s.exactPlane .blue + s.exactPlane .red := by
  rw [exactPlane_red, exactPlane_blue, exactBytes]
  simp only [exactPlane, rowBytes, rows, plane]
  omega

/-- The bytes of a frame are those of its planes, which words count as they are. -/
lemma exactBytes_eq_planeBytes (s : Size) :
    s.exactBytes = s.planeBytes .luma + s.planeBytes .blue + s.planeBytes .blue := by
  rw [exactBytes_eq, exactPlane_red, planeBytes_eq, planeBytes_eq]

/-- A chroma plane takes at most a quarter of the luma plane. -/
lemma exactPlane_blue_le (s : Size) : 4 * s.exactPlane .blue ≤ s.exactPlane .luma := by
  rw [exactPlane_blue]
  calc 4 * (s.width.toNat / 2 * (s.height.toNat / 2))
      = (2 * (s.width.toNat / 2)) * (2 * (s.height.toNat / 2)) := by
        rw [Nat.mul_mul_mul_comm]
    _ ≤ s.width.toNat * s.height.toNat := Nat.mul_le_mul (Nat.mul_div_le ..) (Nat.mul_div_le ..)

/-- A frame is counted exactly unless its bytes are beyond a word. -/
lemma frameBytes_eq (s : Size) : s.frameBytes = Bytes.saturate s.exactBytes := by
  have chroma := s.exactPlane_blue_le
  have luma : s.exactPlane .luma ≤ Bytes.maxWord := by
    rw [← planeBytes_eq]
    exact Bytes.saturate_le _
  rw [frameBytes, planeBytes_eq, planeBytes_eq, exactBytes_eq, exactPlane_red]
  simp only [Bytes.saturate, Bytes.maxWord] at *
  omega

/-- A frame whose bytes a word counts is counted exactly. -/
lemma frameBytes_of_le {s : Size} (h : s.exactBytes ≤ Bytes.maxWord) :
    s.frameBytes = s.exactBytes := by
  rw [frameBytes_eq, Bytes.saturate_of_le h]

/-- A count below the largest word is exact. -/
lemma exactBytes_of_lt {s : Size} (h : s.frameBytes < Bytes.maxWord) :
    s.exactBytes = s.frameBytes := by
  rw [frameBytes_eq, Bytes.saturate] at *
  omega

/-- Below the largest word it makes no difference how the bytes of a frame are counted. -/
lemma lt_frameBytes_iff {s : Size} {n : Nat} (h : n < Bytes.maxWord) :
    n < s.frameBytes ↔ n < s.exactBytes := by
  rw [frameBytes_eq, Bytes.saturate]
  omega

end Size

namespace Plane

/-- Where every row is cut out of the data, the rows take what their width and number say. -/
lemma length_flatten_rowsFrom {width stride count : Nat} {data : Bytes}
    (long : (count - 1) * stride + width ≤ data.length ∨ count = 0) :
    (rowsFrom width stride count data).flatten.length = width * count := by
  induction count generalizing data with
  | zero => simp [rowsFrom]
  | succ count ih =>
    have enough : count * stride + width ≤ data.length := by
      rcases long with long | none
      · simpa using long
      · cases none
    have later : (count - 1) * stride + width ≤ (data.drop stride).length ∨ count = 0 := by
      cases count with
      | zero => exact .inr rfl
      | succ count =>
        left
        simp only [Nat.add_sub_cancel, List.length_drop, Nat.succ_mul] at enough ⊢
        omega
    simp only [rowsFrom, List.flatten_cons, List.length_append, List.length_take, ih later,
      Nat.mul_succ]
    have first : width ≤ data.length := by omega
    omega

/-- Rows that follow each other without padding are the front of the data. -/
lemma flatten_rowsFrom_packed (width count : Nat) (data : Bytes) :
    (rowsFrom width width count data).flatten = data.take (width * count) := by
  induction count generalizing data with
  | zero => simp [rowsFrom]
  | succ count ih =>
    rw [rowsFrom, List.flatten_cons, ih, Nat.mul_succ, Nat.add_comm, List.take_add]

/-- A plane that fits holds the end of its last row, unless that is beyond a word. -/
lemma Fits.last_row {p : Plane} {size : Size} {c : Channel} (fits : p.Fits size c)
    (slice : p.data.length ≤ Bytes.maxSlice) :
    (size.rows c - 1) * p.stride + size.rowBytes c ≤ p.data.length ∨ size.rows c = 0 := by
  obtain ⟨-, long⟩ := fits
  cases rows : size.rows c with
  | zero => exact .inr rfl
  | succ above =>
    left
    simp only [rows, required, Bytes.saturate, Bytes.maxWord, Bytes.maxSlice] at long slice
    simp only [Nat.add_sub_cancel]
    omega

end Plane

namespace Frame

/-- Each plane is held in a slice of memory. -/
def Addressable (f : Frame) : Prop := ∀ c, (f.plane c).data.length ≤ Bytes.maxSlice

instance (f : Frame) : Decidable f.Addressable :=
  decidable_of_iff ((f.plane .luma).data.length ≤ Bytes.maxSlice ∧
      (f.plane .blue).data.length ≤ Bytes.maxSlice ∧ (f.plane .red).data.length ≤ Bytes.maxSlice)
    ⟨fun ⟨y, u, v⟩ c => match c with
      | .luma => y
      | .blue => u
      | .red => v,
     fun h => ⟨h .luma, h .blue, h .red⟩⟩

/-- The rows of a plane take as many bytes as the plane is counted for. -/
lemma length_flatten_rows {f : Frame} (held : f.Addressable) (c : Channel) :
    (f.rows c).flatten.length = f.size.exactPlane c :=
  Plane.length_flatten_rowsFrom ((f.fits c).last_row (held c))

/-- The pixels of a frame are the rows of its three planes, one plane after the other. -/
lemma pixels_eq (f : Frame) :
    f.pixels = (f.rows .luma).flatten ++ ((f.rows .blue).flatten ++ (f.rows .red).flatten) := by
  simp [pixels, Channel.all]

/-- The picture takes as many bytes as the size says. -/
lemma length_pixels {f : Frame} (held : f.Addressable) : f.pixels.length = f.size.exactBytes := by
  rw [pixels_eq, Size.exactBytes_eq]
  simp only [List.length_append, length_flatten_rows held]
  omega

/-- A plane without padding is its rows. -/
lemma packedPlane_eq {f : Frame} {c : Channel} (packed : (f.plane c).stride = f.size.rowBytes c) :
    f.packedPlane c = some (f.rows c).flatten := by
  rw [packedPlane, if_pos packed, rows, Plane.rows, packed, Plane.flatten_rowsFrom_packed,
    Size.planeBytes_eq, Size.exactPlane]

/-- A frame is packed just if no plane is padded. -/
lemma isPacked_iff {f : Frame} : f.isPacked = true ↔ ∀ c, (f.plane c).stride = f.size.rowBytes c := by
  rw [isPacked, List.all_eq_true]
  refine ⟨fun packed c => ?_, fun packed c _ => beq_iff_eq.2 (packed c)⟩
  have mem : c ∈ Channel.all := by cases c <;> decide
  exact beq_iff_eq.1 (packed c mem)

/-- A picture that carries the pixels of a frame has the rows of each plane in their place. -/
lemma plane_pixels {f : Frame} (held : f.Addressable) (stamp : Int64) (c : Channel) :
    (Picture.mk stamp f.size f.pixels).plane c = (f.rows c).flatten := by
  have luma := length_flatten_rows held .luma
  have blue := length_flatten_rows held .blue
  have red := length_flatten_rows held .red
  rw [Size.exactPlane_red] at red
  cases c <;> simp only [Picture.plane, Size.planeBytes_eq, pixels_eq]
  case luma => rw [← luma, List.take_left]
  case blue => rw [← luma, ← blue, List.drop_left, List.take_left]
  case red =>
    rw [← List.drop_drop, ← luma, List.drop_left, ← blue, List.drop_left, blue, ← red,
      List.take_length]

/-- The luma plane of a frame fits in a slice of memory. -/
lemma exactPlane_le {f : Frame} (held : f.Addressable) :
    f.size.exactPlane .luma ≤ Bytes.maxSlice := by
  obtain ⟨wide, -⟩ := f.fits .luma
  rcases (f.fits .luma).last_row (held .luma) with long | none
  · have tall : (f.size.rows .luma - 1) * f.size.rowBytes .luma ≤
        (f.size.rows .luma - 1) * (f.plane .luma).stride := Nat.mul_le_mul_left _ wide
    have rows : f.size.exactPlane .luma ≤
        (f.size.rows .luma - 1) * f.size.rowBytes .luma + f.size.rowBytes .luma := by
      rw [Size.exactPlane, Nat.mul_comm, ← Nat.succ_mul]
      apply Nat.mul_le_mul_right
      omega
    have slice := held .luma
    omega
  · simp [Size.exactPlane, none]

/-- A frame that memory holds stays so far below the largest word that a time stamp can be added. -/
lemma exactBytes_le {f : Frame} (held : f.Addressable) :
    Wire.stampLength + f.size.exactBytes ≤ Bytes.maxWord := by
  have luma := exactPlane_le held
  have chroma := f.size.exactPlane_blue_le
  rw [Size.exactBytes_eq, Size.exactPlane_red]
  simp only [Wire.stampLength, Bytes.maxSlice, Bytes.maxWord] at *
  omega

/-- The bytes of a frame that memory holds are counted exactly. -/
lemma frameBytes_eq {f : Frame} (held : f.Addressable) : f.size.frameBytes = f.size.exactBytes := by
  have := exactBytes_le held
  exact Size.frameBytes_of_le (by omega)

/-- The rows take as many bytes as are counted for the size. -/
def Exact (f : Frame) : Prop := f.pixels.length = f.size.frameBytes

/-- A frame that memory holds is as long as is counted for it. -/
lemma Addressable.exact {f : Frame} (held : f.Addressable) : f.Exact := by
  rw [Exact, length_pixels held, frameBytes_eq held]

end Frame

end PlanarPipe
