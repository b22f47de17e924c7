import PlanarPipe.Proofs.Video.Repainting

/-!
# How the test pattern moves

Samples are computed in words, which wrap around, and are divided by four before they are cut to a byte. As a
fourth of all words is a multiple of 256, nothing of the wrapping is seen in the byte: it is that of a computation
without bounds (`Pattern.toNat_sample`). What holds there from frame to frame holds of all words, and 512 frames are
a period. Main statement: `Pattern.sample_moves`.
-/

namespace PlanarPipe.Pattern

/-- A sample before it is cut to a byte, where numbers have no bounds. -/
def exactSample (c : Channel) (col row index : Nat) : Int :=
  let shift := index * 2
  match c with
  | .luma => col + row + shift
  | .blue => 128 + ((col + shift) / 4 : Nat)
  | .red => 128 - ((row + shift) / 4 : Nat)

/-- A fourth of all words is a multiple of 256, and so are all words. -/
lemma toNat_quarter (n index : UInt64) :
    ((n + index * 2) / 4).toUInt8.toNat = (n.toNat + index.toNat * 2) / 4 % 256 := by
  have wraps : ∀ n : Nat, n % 2 ^ 64 / 4 % 256 = n / 4 % 256 := fun n => by omega
  have counted : (n + index * 2).toNat = (n.toNat + index.toNat * 2) % 2 ^ 64 := by
    rw [UInt64.toNat_add, UInt64.toNat_mul, Nat.add_mod_mod]
    rfl
  rw [UInt64.toNat_toUInt8, UInt64.toNat_div, counted]
  exact wraps _

/-- Words wrap around, and the samples are the same as if they did not. -/
lemma toNat_sample (c : Channel) (col row index : UInt64) :
    (sample c col row index).toNat = exactSample c col.toNat row.toNat index.toNat % 256 := by
  cases c with
  | luma =>
    simp only [sample, exactSample, UInt64.toNat_toUInt8, UInt64.toNat_add, UInt64.toNat_mul, UInt64.reduceToNat]
    omega
  | blue =>
    simp only [sample, exactSample, UInt8.toNat_add, toNat_quarter, UInt8.reduceToNat]
    omega
  | red =>
    simp only [sample, exactSample, UInt8.toNat_sub, toNat_quarter, UInt8.reduceToNat]
    omega

variable {c : Channel} {col col' row row' index index' : UInt64}

/-- Two samples are the same just if their values agree modulo 256. -/
lemma sample_eq_iff : sample c col row index = sample c col' row' index' ↔
    exactSample c col.toNat row.toNat index.toNat % 256 = exactSample c col'.toNat row'.toNat index'.toNat % 256 := by
  rw [← toNat_sample, ← toNat_sample, Int.ofNat_inj, UInt8.toNat_inj]

/-- After 512 frames each sample has come back to what it was. -/
lemma sample_eq_of_mod (same : index.toNat % 512 = index'.toNat % 512) :
    sample c col row index = sample c col row index' := by
  rw [sample_eq_iff]
  cases c with
  | luma | blue | red =>
    simp only [exactSample]
    omega

/-- Luma and the first chroma plane move by two columns, and the other one by two rows. -/
lemma sample_next (col row index : UInt64) :
    sample .luma col row (index + 1) = sample .luma (col + 2) row index ∧
      sample .blue col row (index + 1) = sample .blue (col + 2) row index ∧
      sample .red col row (index + 1) = sample .red col (row + 2) index := by
  refine ⟨?_, ?_, ?_⟩
  all_goals
    rw [sample_eq_iff]
    simp only [exactSample, UInt64.toNat_add, UInt64.reduceToNat]
    omega

/-- After 512 frames the whole frame has come back. -/
lemma render_eq_of_mod (same : index.toNat % 512 = index'.toNat % 512) (p : Pattern) (size : Size)
    (pts : Option Int64) : p.render size index pts = p.render size index' pts := by
  have planes : drawPlane size p.pad index = drawPlane size p.pad index' := by
    funext c
    simp only [drawPlane, drawRow, sample_eq_of_mod same]
  rw [render, planes]
  rfl

/-- A table without its first entries starts further on. -/
lemma drop_map_range {α : Type} (f : Nat → α) (n k : Nat) :
    ((List.range n).map f).drop k = (List.range (n - k)).map fun i => f (i + k) := by
  apply List.ext_getElem
  · rw [List.length_drop, List.length_map, List.length_map, List.length_range, List.length_range]
  · intro i _ _
    rw [List.getElem_drop, List.getElem_map, List.getElem_map, List.getElem_range, List.getElem_range, Nat.add_comm]

/-- A table without its last entries ends earlier. -/
lemma take_map_range {α : Type} (f : Nat → α) (n k : Nat) :
    ((List.range n).map f).take (n - k) = (List.range (n - k)).map f := by
  rw [← List.map_take, List.take_range, Nat.min_eq_left (Nat.sub_le n k)]

/-- The rows of the next frame are those of this one without their first two columns, as far as they go. -/
lemma sampledRows_next (size : Size) (index : UInt64) (c : Channel) (across : c ≠ .red) :
    (sampledRows size (index + 1) c).map (List.take (size.rowBytes c - 2)) =
      (sampledRows size index c).map (List.drop 2) := by
  rw [sampledRows, sampledRows, List.map_map, List.map_map]
  refine List.map_congr_left fun row _ => ?_
  rw [Function.comp_apply, Function.comp_apply, take_map_range, drop_map_range]
  refine List.map_congr_left fun col _ => ?_
  rw [UInt64.ofNat_add]
  cases c with
  | luma => exact (sample_next ..).1
  | blue => exact (sample_next ..).2.1
  | red => exact absurd rfl across

/-- In the other chroma plane the first two rows are left out instead. -/
lemma sampledRows_red_next (size : Size) (index : UInt64) :
    (sampledRows size (index + 1) .red).take (size.rows .red - 2) = (sampledRows size index .red).drop 2 := by
  rw [sampledRows, sampledRows, take_map_range, drop_map_range]
  refine List.map_congr_left fun row _ => List.map_congr_left fun col _ => ?_
  rw [UInt64.ofNat_add]
  exact (sample_next ..).2.2

/-- Each sample is what a computation without bounds gives, cut to a byte. From each frame to the next luma and the
first chroma plane move by two columns, and the other chroma plane by two rows, also where a word of the computation
wraps around. After 512 frames all samples are the same again, so that a frame is the same as that of its number
modulo 512. -/
theorem sample_moves (col row index : UInt64) :
    (∀ c, (sample c col row index).toNat = exactSample c col.toNat row.toNat index.toNat % 256) ∧
      (sample .luma col row (index + 1) = sample .luma (col + 2) row index ∧
        sample .blue col row (index + 1) = sample .blue (col + 2) row index ∧
        sample .red col row (index + 1) = sample .red col (row + 2) index) ∧
      (∀ c, sample c col row (index + 512) = sample c col row index ∧
        sample c col row (index % 512) = sample c col row index) ∧
      ∀ size : Size,
        (∀ c, c ≠ .red → (sampledRows size (index + 1) c).map (List.take (size.rowBytes c - 2)) =
          (sampledRows size index c).map (List.drop 2)) ∧
        (sampledRows size (index + 1) .red).take (size.rows .red - 2) = (sampledRows size index .red).drop 2 ∧
        ∀ (p : Pattern) pts, p.render size (index + 512) pts = p.render size index pts ∧
          p.render size (index % 512) pts = p.render size index pts := by
  have later : (index + 512).toNat % 512 = index.toNat % 512 := by
    simp only [UInt64.toNat_add, UInt64.reduceToNat]
    omega
  have reduced : (index % 512).toNat % 512 = index.toNat % 512 := by
    simp only [UInt64.toNat_mod, UInt64.reduceToNat, Nat.mod_mod]
  refine ⟨fun c => toNat_sample c col row index, sample_next col row index,
    fun c => ⟨sample_eq_of_mod later, sample_eq_of_mod reduced⟩, fun size => ?_⟩
  refine ⟨sampledRows_next size index, sampledRows_red_next size index, fun p pts => ?_⟩
  exact ⟨render_eq_of_mod later p size pts, render_eq_of_mod reduced p size pts⟩

end PlanarPipe.Pattern
