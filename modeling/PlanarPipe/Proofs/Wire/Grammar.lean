import Mathlib.Tactic.Lemma
import PlanarPipe.Proofs.Wire.Decode

/-!
# Well-formed streams

A stream is well-formed if each of its records fits what was announced before it (`WellFormed`). Main
statement: reading a byte string to its end succeeds exactly on the encodings of well-formed streams,
and gives the stream back, so that no byte string encodes two of them (`decodeAll_accepts_grammar`).

Each direction is an induction of its own: `decodeAll_encodeAll` along the stream, which is told for
any bytes that follow it, and `decodeAll_sound` along the reading of a byte string.
-/

namespace PlanarPipe

/-- Records as they are written, one after the other. -/
def encodeAll (records : List Record) : Bytes := records.flatMap Record.encode

/-- A stream is written record by record. -/
lemma encodeAll_cons (r : Record) (records : List Record) :
    encodeAll (r :: records) = r.encode ++ encodeAll records := List.flatMap_cons

/-- A stream of two parts is written as the one and then the other. -/
lemma encodeAll_append (records later : List Record) :
    encodeAll (records ++ later) = encodeAll records ++ encodeAll later := List.flatMap_append

namespace Wire

/-- Each record fits what was announced before it; `current` was announced before the first. -/
inductive WellFormed (limit : Nat) : Option Size → List Record → Prop where
  | nil {current} :
    WellFormed limit current []
  | cons {current r records} :
    r.Fits current limit →
    WellFormed limit (sizeAfter current r) records →
    WellFormed limit current (r :: records)

/-- The size that holds after some records. -/
def sizeAfterAll (current : Option Size) (records : List Record) : Option Size :=
  records.foldl sizeAfter current

variable {bytes rest : Bytes} {current : Option Size} {limit : Nat}

/-- What the first step makes of a byte string settles how the reading goes on. -/
lemma decodeAll_eq (bytes : Bytes) (current : Option Size) (limit : Nat) :
    decodeAll bytes current limit =
      match decode bytes current limit with
      | .more _ => ([], .more bytes)
      | .malformed cause rest => ([], .malformed cause rest)
      | .unaddressable => ([], .unaddressable bytes)
      | .record r rest =>
        (r :: (decodeAll rest (sizeAfter current r) limit).1,
          (decodeAll rest (sizeAfter current r) limit).2) := by
  rw [decodeAll]
  split <;> simp_all

/-- The reading of nothing ends at once. -/
lemma decodeAll_nil (current : Option Size) (limit : Nat) :
    decodeAll [] current limit = ([], .more []) := by
  rw [decodeAll_eq, decode_short (by decide)]

/-- A stream that fits is read before what follows it, if its lengths can be counted. -/
lemma decodeAll_encodeAll {records : List Record} (wf : WellFormed limit current records)
    (counted : ∀ r ∈ records, r.encode.length ≤ Bytes.maxWord) (rest : Bytes) :
    decodeAll (encodeAll records ++ rest) current limit =
      (records ++ (decodeAll rest (sizeAfterAll current records) limit).1,
        (decodeAll rest (sizeAfterAll current records) limit).2) := by
  induction wf with
  | nil => rfl
  | @cons current r records fits wf ih =>
    have first := decode_encode fits (counted r (List.mem_cons_self ..)) (encodeAll records ++ rest)
    have later := ih fun r' mem => counted r' (List.mem_cons_of_mem _ mem)
    rw [encodeAll_cons, List.append_assoc, decodeAll_eq, first]
    simp only [later]
    rfl

/-- What is read is well-formed, and the byte string is its encoding and what is left. -/
lemma decodeAll_sound {records : List Record}
    (h : decodeAll bytes current limit = (records, .more rest)) :
    WellFormed limit current records ∧ bytes = encodeAll records ++ rest := by
  -- along the reading: each record that is read takes its encoding off the front
  induction bytes, current using decodeAll.induct limit generalizing records with
  | case1 bytes current room more =>
    rw [decodeAll_eq, more] at h
    cases h
    exact ⟨.nil, rfl⟩
  | case2 bytes current cause left malformed =>
    rw [decodeAll_eq, malformed] at h
    cases h
  | case3 bytes current unaddressable =>
    rw [decodeAll_eq, unaddressable] at h
    cases h
  | case4 bytes current r left first records' ending later ih =>
    simp only [decodeAll_eq bytes, first, later] at h
    cases h
    obtain ⟨whole, fits, -⟩ := of_decode_record first
    obtain ⟨wf, bytes⟩ := ih later
    refine ⟨.cons fits wf, ?_⟩
    rw [whole, bytes, encodeAll_cons, List.append_assoc]

/-- Every length of a well-formed stream can be counted, where the limit leaves room for a time stamp. -/
lemma WellFormed.counted {records : List Record} (wf : WellFormed limit current records)
    (small : limit + stampLength ≤ Bytes.maxWord) :
    ∀ r ∈ records, r.encode.length ≤ Bytes.maxWord := by
  induction wf with
  | nil => exact List.forall_mem_nil _
  | cons fits _ ih =>
    intro r mem
    cases mem with
    | head => exact length_encode_le fits small
    | tail _ mem => exact ih r mem

/-- A well-formed stream is read back from its encoding, and nothing is left. -/
lemma WellFormed.decodeAll_eq {records : List Record} (wf : WellFormed limit current records)
    (small : limit + stampLength ≤ Bytes.maxWord) :
    decodeAll (encodeAll records) current limit = (records, .more []) := by
  have read := decodeAll_encodeAll wf (wf.counted small) []
  rwa [List.append_nil, decodeAll_nil, List.append_nil] at read

/-- No picture of a well-formed stream is taken for an announcement. -/
lemma WellFormed.untagged {records : List Record} {p : Picture}
    (wf : WellFormed limit current records) (mem : .picture p ∈ records) : ¬Tagged p.stamp := by
  induction wf with
  | nil => cases mem
  | cons fits _ ih =>
    cases mem with
    | head =>
      cases fits with
      | picture _ _ _ untagged => exact untagged
    | tail _ mem => exact ih mem

/-- A byte string is read to its end without an error exactly if it is the encoding of a well-formed
stream. There is then only one such stream, the one that was read. -/
theorem decodeAll_accepts_grammar (bytes : Bytes) (limit : Nat)
    (small : limit + stampLength ≤ Bytes.maxWord) :
    ((decodeAll bytes none limit).2 = .more [] ↔
      ∃ records, WellFormed limit none records ∧ bytes = encodeAll records) ∧
    ∀ records, WellFormed limit none records → bytes = encodeAll records →
      (decodeAll bytes none limit).1 = records := by
  have complete : ∀ records, WellFormed limit none records → bytes = encodeAll records →
      decodeAll bytes none limit = (records, .more []) := by
    intro records wf whole
    have read := decodeAll_encodeAll wf (wf.counted small) []
    rw [List.append_nil, decodeAll_nil, List.append_nil] at read
    rw [whole, read]
  refine ⟨⟨?_, ?_⟩, ?_⟩
  · intro ending
    have sound := decodeAll_sound (Prod.ext rfl ending : decodeAll bytes none limit = (_, .more []))
    rw [List.append_nil] at sound
    exact ⟨_, sound⟩
  · rintro ⟨records, wf, whole⟩
    rw [complete records wf whole]
  · intro records wf whole
    rw [complete records wf whole]

/-- Two sizes with odd sides, a size announced again, and the time stamp before zero. -/
theorem decodeAll_accepts_grammar_odd_sizes :
    standardLimit + stampLength ≤ Bytes.maxWord ∧
      (decodeAll
          (encodeAll [.announcement ⟨3, 1⟩, .picture ⟨-1, ⟨3, 1⟩, [7, 8, 9]⟩, .announcement ⟨3, 1⟩,
            .announcement ⟨1, 2⟩, .picture ⟨0, ⟨1, 2⟩, [4, 5]⟩])
          none standardLimit).1 =
        [.announcement ⟨3, 1⟩, .picture ⟨-1, ⟨3, 1⟩, [7, 8, 9]⟩, .announcement ⟨3, 1⟩,
          .announcement ⟨1, 2⟩, .picture ⟨0, ⟨1, 2⟩, [4, 5]⟩] := by
  refine ⟨by decide, (decodeAll_accepts_grammar _ _ (by decide)).2 _ ?_ rfl⟩
  refine .cons (.announcement rfl) (.cons (.picture rfl rfl (by decide) (by decide)) ?_)
  refine .cons (.announcement rfl) (.cons (.announcement rfl) ?_)
  exact .cons (.picture rfl rfl (by decide) (by decide)) .nil

end Wire

end PlanarPipe
