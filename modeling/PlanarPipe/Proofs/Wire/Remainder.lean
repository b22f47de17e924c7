import PlanarPipe.Proofs.Wire.Grammar

/-!
# How far a byte string can be read

Every byte string starts with a well-formed stream, if only with the empty one. Reading takes the longest of
them off its front (`Longest`, `exists_longest`), and what is left is the start of a record (`Undecided`), or
no record at all.
-/

namespace PlanarPipe.Wire

variable {bytes rest : Bytes} {current : Option Size} {limit : Nat} {records : List Record}

/-- Bytes that may yet become a record: too few to tell what they are, or the start of an announcement, or of
a picture that is allowed. -/
inductive Undecided (limit : Nat) (current : Option Size) (bytes : Bytes) : Prop where
  | short :
    bytes.length < tag.length →
    Undecided limit current bytes
  | begun :
    bytes.take tag.length = tag →
    bytes.length < announcementLength →
    Undecided limit current bytes
  | waiting {size} :
    StartsPicture bytes →
    current = some size →
    size.exactBytes ≤ limit →
    bytes.length < stampLength + size.exactBytes →
    Undecided limit current bytes

/-- More is asked for exactly where the bytes are undecided. -/
lemma undecided_iff (small : limit + stampLength ≤ Bytes.maxWord) :
    Undecided limit current bytes ↔ ∃ room, decode bytes current limit = .more room := by
  constructor
  · intro undecided
    cases undecided with
    | short few => exact ⟨0, decode_short few⟩
    | begun tagged cut =>
      by_cases few : bytes.length < tag.length
      · exact ⟨0, decode_short few⟩
      · exact ⟨0, decode_begun (by omega) tagged cut⟩
    | @waiting size start known within less =>
      have exact : size.frameBytes = size.exactBytes := Size.frameBytes_of_le (by omega)
      exact ⟨_, (Decodes.waiting start known (by omega) (by omega) (by omega)).eq⟩
  · rintro ⟨room, more⟩
    have decoded := decodes bytes current limit
    rw [more] at decoded
    cases decoded with
    | short few => exact .short few
    | begun _ tagged cut => exact .begun tagged cut
    | @waiting size start known within counted less =>
      have exact : size.exactBytes = size.frameBytes :=
        Size.exactBytes_of_lt (by simp only [stampLength] at counted; omega)
      exact .waiting start known (by omega) (by omega)

/-- The records are all that can be taken off the front of a byte string, and this is what they leave. -/
structure Longest (limit : Nat) (bytes : Bytes) (records : List Record) (rest : Bytes) : Prop where
  whole : bytes = encodeAll records ++ rest
  wellFormed : WellFormed limit none records
  longest : ∀ found left, bytes = encodeAll found ++ left → WellFormed limit none found → found <+: records

/-- Nothing is read where no record begins. -/
lemma decodeAll_of_unread (unread : ∀ r left, decode bytes current limit ≠ .record r left) :
    (decodeAll bytes current limit).1 = [] := by
  rw [decodeAll_eq]
  cases d : decode bytes current limit with
  | record r left => exact absurd d (unread r left)
  | more | malformed | unaddressable => rfl

/-- What is read is well-formed, and no record follows it. -/
lemma decodeAll_split (bytes : Bytes) (current : Option Size) (limit : Nat) :
    ∃ rest, bytes = encodeAll (decodeAll bytes current limit).1 ++ rest ∧
      WellFormed limit current (decodeAll bytes current limit).1 ∧
      ∀ r left, decode rest (sizeAfterAll current (decodeAll bytes current limit).1) limit ≠
        .record r left := by
  induction bytes, current using decodeAll.induct limit with
  | case1 bytes current room found | case2 bytes current cause left found
  | case3 bytes current found =>
    have unread : ∀ r left, decode bytes current limit ≠ .record r left := by
      intro r left read
      rw [found] at read
      cases read
    rw [decodeAll_of_unread unread]
    exact ⟨bytes, rfl, .nil, unread⟩
  | case4 bytes current r left first records ending later ih =>
    obtain ⟨rest, whole, wf, unread⟩ := ih
    obtain ⟨front, fits, -⟩ := of_decode_record first
    simp only [decodeAll_eq bytes, first]
    refine ⟨rest, ?_, .cons fits wf, unread⟩
    rw [encodeAll_cons, List.append_assoc, ← whole, front]

/-- A stream at the front of a byte string is read first, so that it is the start of what is read. -/
lemma WellFormed.isPrefix_decodeAll (wf : WellFormed limit none records) (whole : bytes = encodeAll records ++ rest)
    (small : limit + stampLength ≤ Bytes.maxWord) : records <+: (decodeAll bytes none limit).1 := by
  rw [whole, decodeAll_encodeAll wf (wf.counted small)]
  exact List.prefix_append ..

/-- Reading takes the longest well-formed stream off the front of a byte string. How it ends is told by what
is left, with which no record begins. -/
lemma exists_longest (bytes : Bytes) (small : limit + stampLength ≤ Bytes.maxWord) :
    ∃ records rest, Longest limit bytes records rest ∧
      (∀ r left, decode rest (sizeAfterAll none records) limit ≠ .record r left) ∧
      decodeAll bytes none limit = (records, (decodeAll rest (sizeAfterAll none records) limit).2) := by
  obtain ⟨rest, whole, wf, unread⟩ := decodeAll_split bytes none limit
  refine ⟨_, rest, ⟨whole, wf, fun found left whole wf => wf.isPrefix_decodeAll whole small⟩, unread,
    Prod.ext rfl ?_⟩
  have read := congrArg (fun bytes => (decodeAll bytes none limit).2) whole
  rwa [decodeAll_encodeAll wf (wf.counted small)] at read

/-- There is only one longest stream, the one that is read. -/
lemma Longest.eq_decodeAll (longest : Longest limit bytes records rest)
    (small : limit + stampLength ≤ Bytes.maxWord) : records = (decodeAll bytes none limit).1 := by
  obtain ⟨rest', whole, wf, -⟩ := decodeAll_split bytes none limit
  have one := longest.wellFormed.isPrefix_decodeAll longest.whole small
  have other := longest.longest _ rest' whole wf
  exact one.eq_of_length_le other.length_le

end PlanarPipe.Wire
