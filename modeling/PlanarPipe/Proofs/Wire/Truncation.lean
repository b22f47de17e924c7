import PlanarPipe.Proofs.Wire.Grammar

/-!
# Streams that were cut short

The start of a well-formed stream is read up to the record in which it was cut
(`decodeAll_of_isPrefix`), and nothing is left of it exactly if it was cut between two records
(`boundary_iff`).
-/

namespace PlanarPipe.Wire

variable {bytes rest : Bytes} {current : Option Size} {limit : Nat} {records found : List Record}

/-- The first records of a well-formed stream are one. -/
lemma WellFormed.take (wf : WellFormed limit current records) (n : Nat) :
    WellFormed limit current (records.take n) := by
  induction wf generalizing n with
  | nil =>
    rw [List.take_nil]
    exact .nil
  | cons fits _ ih =>
    cases n with
    | zero => exact .nil
    | succ n => exact .cons fits (ih n)

/-- What was cut off a well-formed stream is waited for, after the records before the cut. -/
lemma decodeAll_of_isPrefix (wf : WellFormed limit current records)
    (counted : ∀ r ∈ records, r.encode.length ≤ Bytes.maxWord) (start : bytes <+: encodeAll records) :
    ∃ n rest, decodeAll bytes current limit = (records.take n, .more rest) := by
  induction wf generalizing bytes with
  | nil =>
    obtain rfl := List.prefix_nil.1 start
    exact ⟨0, [], decodeAll_nil ..⟩
  | @cons current r records fits wf ih =>
    have first := counted r (List.mem_cons_self ..)
    have whole : r.encode <+: encodeAll (r :: records) := List.prefix_append ..
    -- the stream was cut inside the first record, or after it
    by_cases cut : bytes.length < r.encode.length
    · have start := List.prefix_of_prefix_length_le start whole (Nat.le_of_lt cut)
      obtain ⟨room, more⟩ := decode_of_isPrefix fits first start cut
      refine ⟨0, bytes, ?_⟩
      rw [decodeAll_eq, more]
      rfl
    · obtain ⟨later, rfl⟩ := List.prefix_of_prefix_length_le whole start (Nat.le_of_not_lt cut)
      have start : later <+: encodeAll records := (List.prefix_append_right_inj r.encode).1 start
      obtain ⟨n, rest, read⟩ := ih (fun r' mem => counted r' (List.mem_cons_of_mem _ mem)) start
      refine ⟨n + 1, rest, ?_⟩
      rw [decodeAll_eq, decode_encode fits first]
      simp only [read]
      rfl

/-- Nothing is left of the start of a well-formed stream exactly if it ends between two records. -/
lemma boundary_iff (wf : WellFormed limit current records)
    (counted : ∀ r ∈ records, r.encode.length ≤ Bytes.maxWord) (start : bytes <+: encodeAll records)
    (read : decodeAll bytes current limit = (found, .more rest)) :
    rest = [] ↔ ∃ n, bytes = encodeAll (records.take n) := by
  constructor
  · rintro rfl
    obtain ⟨n, left, read'⟩ := decodeAll_of_isPrefix wf counted start
    obtain ⟨rfl, ending⟩ := Prod.mk.inj (read.symm.trans read')
    obtain ⟨-, bytes⟩ := decodeAll_sound read
    rw [List.append_nil] at bytes
    exact ⟨n, bytes⟩
  · rintro ⟨n, rfl⟩
    have all := decodeAll_encodeAll (wf.take n)
      (fun r mem => counted r (List.mem_of_mem_take mem)) []
    rw [List.append_nil, decodeAll_nil, read] at all
    exact Ending.more.inj (Prod.mk.inj all).2

end PlanarPipe.Wire
