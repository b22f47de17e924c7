import PlanarPipe.Proofs.Wire.Decode

/-!
# The limit on pictures

A picture is refused if its size says that it holds more bytes than the limit allows. Sizes are counted in
words, which saturate, and the eight bytes of a time stamp are added to what was counted. This is as good as
counting without a bound except where the record of the picture is too long for a word and is not refused
(`Uncounted`). Main statement: `picture_limit_exact`. No limit that leaves room for a time stamp is concerned
(`not_uncounted`), but the largest word is, which reads as no limit at all (`limit_overflows`).
-/

namespace PlanarPipe.Wire

/-- The record of a picture is longer than a word can tell, and the limit does not keep it out: it allows for
the picture, or it is the largest word, which no count exceeds. -/
def Uncounted (size : Size) (limit : Nat) : Prop :=
  Bytes.maxWord < stampLength + size.exactBytes ∧ (size.exactBytes ≤ limit ∨ limit = Bytes.maxWord)

variable {bytes : Bytes} {size : Size} {limit : Nat}

/-- A limit that leaves room for a time stamp keeps out every picture that cannot be counted. -/
lemma not_uncounted (small : limit + stampLength ≤ Bytes.maxWord) : ¬Uncounted size limit := by
  rintro ⟨beyond, allowed⟩
  simp only [stampLength] at small beyond
  omega

/-- Counting in words is wrong about no other pictures. -/
lemma uncounted_iff (word : limit ≤ Bytes.maxWord) :
    Uncounted size limit ↔ size.frameBytes ≤ limit ∧ Bytes.maxWord < stampLength + size.frameBytes := by
  rw [Uncounted, Size.frameBytes_eq, Bytes.saturate]
  simp only [stampLength]
  omega

/-- What bytes that start a picture of some size are read as, all lengths counted without a bound. -/
inductive ReadsPicture (bytes : Bytes) (size : Size) (limit : Nat) : Decoded → Prop
  | uncounted (beyond : Uncounted size limit) : ReadsPicture bytes size limit .unaddressable
  | refused (counted : ¬Uncounted size limit) (large : limit < size.exactBytes) :
      ReadsPicture bytes size limit (.malformed (.oversize size.frameBytes limit) bytes)
  | waiting (counted : ¬Uncounted size limit) (within : size.exactBytes ≤ limit)
      (exact : size.frameBytes = size.exactBytes) (less : bytes.length < stampLength + size.exactBytes) :
      ReadsPicture bytes size limit (.more (stampLength + size.exactBytes))
  | picture (counted : ¬Uncounted size limit) (within : size.exactBytes ≤ limit)
      (exact : size.frameBytes = size.exactBytes) (all : stampLength + size.exactBytes ≤ bytes.length) :
      ReadsPicture bytes size limit
        (.record (.picture ⟨decodeStamp (bytes.take stampLength), size,
          (bytes.drop stampLength).take size.exactBytes⟩) (bytes.drop (stampLength + size.exactBytes)))

/-- Bytes that start a picture are read as they would be without a bound on lengths, but for the pictures that
cannot be counted. -/
lemma readsPicture (start : StartsPicture bytes) (word : limit ≤ Bytes.maxWord) :
    ReadsPicture bytes size limit (decode bytes (some size) limit) := by
  have counted : size.frameBytes = min size.exactBytes Bytes.maxWord := size.frameBytes_eq
  have uncounted : Uncounted size limit ↔ _ := uncounted_iff word
  rw [decode_untagged start.1 start.2]
  simp only
  split
  case isTrue large => exact .refused (by rw [uncounted]; omega) (by omega)
  case isFalse within =>
    split
    case isTrue beyond => exact .uncounted (uncounted.2 ⟨by omega, beyond⟩)
    case isFalse told =>
      -- a sum that a word can tell is one of exact counts
      have exact : size.frameBytes = size.exactBytes := by
        simp only [stampLength] at told
        omega
      have counted : ¬Uncounted size limit := fun beyond => told (uncounted.1 beyond).2
      rw [exact] at within ⊢
      split
      case isTrue less => exact .waiting counted (by omega) exact less
      case isFalse all => exact .picture counted (by omega) exact (by omega)

/-- Four bytes or more that do not start with the tag of an announcement are read as a picture of the size
announced last. The sum of its length and that of a time stamp is beyond a word exactly where the picture is
`Uncounted`. Everywhere else the picture is refused exactly if it holds more bytes than the limit allows,
counted without a bound. One that is not refused is counted exactly, its record has a length that a word can
tell, and it is read as soon as that many bytes are there, and waited for until then. -/
theorem picture_limit_exact (start : StartsPicture bytes) (word : limit ≤ Bytes.maxWord) :
    let length := size.exactBytes
    let total := stampLength + length
    let decoded := decode bytes (some size) limit
    (decoded = .unaddressable ↔ Uncounted size limit) ∧
      (¬Uncounted size limit →
        (decoded = .malformed (.oversize size.frameBytes limit) bytes ↔ limit < length) ∧
        (length ≤ limit → size.frameBytes = length ∧ total ≤ Bytes.maxWord) ∧
        (decoded =
            .record (.picture ⟨decodeStamp (bytes.take stampLength), size, (bytes.drop stampLength).take length⟩)
              (bytes.drop total) ↔
          length ≤ limit ∧ total ≤ bytes.length) ∧
        (decoded = .more total ↔ length ≤ limit ∧ bytes.length < total)) := by
  intro length total decoded
  have reads : ReadsPicture bytes size limit decoded := readsPicture start word
  have long : ¬Uncounted size limit → length ≤ limit → total ≤ Bytes.maxWord := by
    intro counted within
    exact Nat.le_of_not_lt fun beyond => counted ⟨beyond, .inl within⟩
  -- no two readings are the same answer, so each case proves one clause and refutes the others
  generalize decoded = d at reads
  cases reads with
  | uncounted beyond => exact ⟨iff_of_true rfl beyond, absurd beyond⟩
  | refused counted large =>
    refine ⟨iff_of_false Decoded.noConfusion counted, fun _ => ⟨iff_of_true rfl large, ?_, ?_, ?_⟩⟩
    · exact fun within => absurd large (Nat.not_lt.2 within)
    · exact iff_of_false Decoded.noConfusion fun told => Nat.not_le.2 large told.1
    · exact iff_of_false Decoded.noConfusion fun told => Nat.not_le.2 large told.1
  | waiting counted within exact less =>
    refine ⟨iff_of_false Decoded.noConfusion counted, fun _ => ⟨?_, ?_, ?_, iff_of_true rfl ⟨within, less⟩⟩⟩
    · exact iff_of_false Decoded.noConfusion (Nat.not_lt.2 within)
    · exact fun _ => ⟨exact, long counted within⟩
    · exact iff_of_false Decoded.noConfusion fun told => Nat.not_le.2 less told.2
  | picture counted within exact all =>
    refine ⟨iff_of_false Decoded.noConfusion counted, fun _ => ⟨?_, ?_, iff_of_true rfl ⟨within, all⟩, ?_⟩⟩
    · exact iff_of_false Decoded.noConfusion (Nat.not_lt.2 within)
    · exact fun _ => ⟨exact, long counted within⟩
    · exact iff_of_false Decoded.noConfusion fun told => Nat.not_le.2 told.2 all

/-- Six bytes of payload follow their time stamp, and no limit but the largest word is set. -/
theorem picture_limit_exact_whole :
    StartsPicture (List.replicate 14 0) ∧ ¬Uncounted ⟨2, 2⟩ Bytes.maxWord ∧
      decode (List.replicate 14 0) (some ⟨2, 2⟩) Bytes.maxWord =
        .record (.picture ⟨0, ⟨2, 2⟩, List.replicate 6 0⟩) [] := by
  have start : StartsPicture (List.replicate 14 0) := ⟨by decide, by decide⟩
  have counted : ¬Uncounted ⟨2, 2⟩ Bytes.maxWord := fun uncounted => absurd uncounted.1 (by decide)
  obtain ⟨-, -, read, -⟩ := (picture_limit_exact start (Nat.le_refl _)).2 counted
  exact ⟨start, counted, read.2 ⟨by decide, by decide⟩⟩

/-- Where the largest word is the limit, a picture of the greatest sides holds more bytes than that and is not
refused, and one that the limit allows is not read: its length and that of its time stamp have no sum. -/
theorem limit_overflows :
    let greatest : Size := ⟨0xFFFF_FFFF, 0xFFFF_FFFF⟩
    let allowed : Size := ⟨0xFFFF_FFFE, 0xAAAA_AAAC⟩
    StartsPicture (List.replicate 8 0) ∧
      Bytes.maxWord < greatest.exactBytes ∧
      decode (List.replicate 8 0) (some greatest) Bytes.maxWord = .unaddressable ∧
      allowed.exactBytes ≤ Bytes.maxWord ∧
      decode (List.replicate 8 0) (some allowed) Bytes.maxWord = .unaddressable := by
  exact ⟨⟨by decide, by decide⟩, by decide, by decide, by decide, by decide⟩

end PlanarPipe.Wire
