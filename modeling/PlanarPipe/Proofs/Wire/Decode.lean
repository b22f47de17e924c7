import Mathlib.Tactic.Lemma
import PlanarPipe.Wire.Decode
import PlanarPipe.Proofs.Video.Extent

/-!
# What one decoding step does

All that `decode` can make of a byte string is listed once (`Decodes`), with what it was decided on. The
list is complete (`decodes`), and each entry settles what is decoded (`Decodes.eq`). All later proofs use
the list or one of these instead of the definition:

* `decode_encode` and `of_decode_record`: a record is read exactly where its encoding stands and it fits;
* `decode_append`: what is settled stays so, whatever follows;
* `decode_of_isPrefix`: a record that has begun and has not ended is waited for;
* `of_decode_malformed`: an error uses up an announcement, or nothing.
-/

namespace PlanarPipe

/-- A time stamp whose low four bytes are those that start an announcement. -/
def Wire.Tagged (stamp : Int64) : Prop := (Wire.encodeStamp stamp).take Wire.tag.length = Wire.tag

instance (stamp : Int64) : Decidable (Wire.Tagged stamp) := inferInstanceAs (Decidable (_ = _))

/-- A record that may come where `current` was announced last and a picture may hold `limit` bytes. -/
inductive Record.Fits (current : Option Size) (limit : Nat) : Record → Prop where
  /-- An announcement of a size with pixels. -/
  | announcement {size} :
    size.isEmpty = false →
    Fits current limit (.announcement size)
  /-- A picture of the size announced last, with a time stamp that is not taken for an announcement. -/
  | picture {stamp size payload} :
    current = some size →
    payload.length = size.exactBytes →
    size.exactBytes ≤ limit →
    ¬Wire.Tagged stamp →
    Fits current limit (.picture ⟨stamp, size, payload⟩)

namespace Wire

/-- Four bytes are written as the number that they spell. -/
lemma encode_decodeSide {bytes : Bytes} (four : bytes.length = 4) :
    LittleEndian.encode 4 (decodeSide bytes).toNat = bytes := by
  have small : LittleEndian.decode bytes < 4294967296 := by
    have lt := LittleEndian.decode_lt bytes
    rwa [four] at lt
  rw [decodeSide, UInt32.toNat_ofNat_of_lt' small, ← four, LittleEndian.encode_decode]

/-- Eight bytes are written as the time stamp that they spell. -/
lemma encodeStamp_decodeStamp {bytes : Bytes} (eight : bytes.length = stampLength) :
    encodeStamp (decodeStamp bytes) = bytes := by
  have small : LittleEndian.decode bytes < 18446744073709551616 := by
    have lt := LittleEndian.decode_lt bytes
    rwa [eight] at lt
  have word : (UInt64.ofNat (LittleEndian.decode bytes)).toInt64.toUInt64.toNat =
      LittleEndian.decode bytes := by
    rw [UInt64.toUInt64_toInt64, UInt64.toNat_ofNat_of_lt' small]
  rw [encodeStamp, decodeStamp, word, ← eight, LittleEndian.encode_decode]

/-- Every byte string of the length of an announcement that starts with the tag is one. -/
lemma exists_encodeSize {bytes : Bytes} (tagged : bytes.take tag.length = tag)
    (long : announcementLength ≤ bytes.length) : ∃ size rest, bytes = encodeSize size ++ rest := by
  simp only [announcementLength, length_tag] at tagged long
  refine ⟨⟨decodeSide ((bytes.drop 4).take 4), decodeSide ((bytes.drop 8).take 4)⟩, bytes.drop 12, ?_⟩
  have width : ((bytes.drop 4).take 4).length = 4 := by
    rw [List.length_take, List.length_drop]
    omega
  have height : ((bytes.drop 8).take 4).length = 4 := by
    rw [List.length_take, List.length_drop]
    omega
  rw [encodeSize, encode_decodeSide width, encode_decodeSide height, ← tagged]
  rw [← List.take_add, ← List.take_add, List.take_append_drop]

variable {bytes rest later : Bytes} {current : Option Size} {limit : Nat}

/-- The tag is looked for in the head that is looked at. -/
lemma take_head (bytes : Bytes) : (bytes.take headLength).take tag.length = bytes.take tag.length := by
  rw [List.take_take]
  rfl

/-- Bytes that are too few for a tag are waited on. -/
lemma decode_short (few : bytes.length < tag.length) : decode bytes current limit = .more 0 := by
  rw [decode, recognise.eq_def, if_pos few, Verdict.take]

/-- So is an announcement that has begun. -/
lemma decode_begun (long : tag.length ≤ bytes.length) (tagged : bytes.take tag.length = tag)
    (cut : bytes.length < announcementLength) : decode bytes current limit = .more 0 := by
  rw [decode, recognise.eq_def, if_neg (by omega), take_head, if_pos tagged, if_pos cut, Verdict.take]

/-- An announcement starts with the tag. -/
lemma take_encodeSize (size : Size) (rest : Bytes) :
    (encodeSize size ++ rest).take tag.length = tag := by
  rw [encodeSize, List.append_assoc, List.append_assoc, List.take_left]

/-- An announcement is read, and refused if the size has no pixels. Either way it is used up. -/
lemma decode_encodeSize (size : Size) (rest : Bytes) (current : Option Size) (limit : Nat) :
    decode (encodeSize size ++ rest) current limit =
      if size.isEmpty then .malformed (.emptySize size) rest
      else .record (.announcement size) rest := by
  have head : (encodeSize size ++ rest).take headLength = encodeSize size := by
    rw [headLength, ← length_encodeSize size, List.take_left]
  have tagged : (encodeSize size).take tag.length = tag := by
    simpa using take_encodeSize size []
  have width : decodeSide (((encodeSize size).drop 4).take 4) = size.width := by
    rw [encodeSize, List.append_assoc, ← length_tag, List.drop_left, length_tag]
    rw [List.take_left' (LittleEndian.length_encode 4 _), decodeSide_encode]
  have height : decodeSide (((encodeSize size).drop 8).take 4) = size.height := by
    rw [encodeSize, List.drop_left' (by simp)]
    rw [List.take_of_length_le (by simp), decodeSide_encode]
  have long : ¬(encodeSize size ++ rest).length < announcementLength := by simp
  have more : ¬(encodeSize size ++ rest).length < tag.length := by
    simp only [announcementLength, length_tag] at long ⊢
    omega
  have drop : (encodeSize size ++ rest).drop announcementLength = rest := by
    rw [← length_encodeSize size, List.drop_left]
  rw [decode, head, recognise.eq_def, if_neg more, if_pos tagged, if_neg long, width, height]
  by_cases empty : size.isEmpty
  · rw [if_pos empty, if_pos empty, Verdict.take, drop]
  · rw [if_neg empty, if_neg empty, Verdict.take, drop]

/-- What does not start with the tag is a picture of the size announced last: it is refused if there is
none or it is too large, waited for, and then read. -/
lemma decode_untagged (long : tag.length ≤ bytes.length) (untagged : bytes.take tag.length ≠ tag) :
    decode bytes current limit =
      match current with
      | none => .malformed .sizeUnknown bytes
      | some size =>
        if limit < size.frameBytes then .malformed (.oversize size.frameBytes limit) bytes
        else if Bytes.maxWord < stampLength + size.frameBytes then .unaddressable
        else if bytes.length < stampLength + size.frameBytes then
          .more (stampLength + size.frameBytes)
        else
          .record
            (.picture ⟨decodeStamp (bytes.take stampLength), size,
              (bytes.drop stampLength).take size.frameBytes⟩)
            (bytes.drop (stampLength + size.frameBytes)) := by
  rw [decode, recognise.eq_def, if_neg (by omega), take_head, if_neg untagged]
  cases current with
  | none => rfl
  | some size =>
    have stamp : (bytes.take headLength).take stampLength = bytes.take stampLength := by
      rw [List.take_take]
      rfl
    simp only [stamp]
    split
    · rfl
    split
    · rfl
    split
    · rfl
    · rw [Verdict.take, List.drop_drop]

/-- A picture starts with its time stamp. -/
lemma take_encodeStamp (stamp : Int64) (rest : Bytes) :
    (encodeStamp stamp ++ rest).take stampLength = encodeStamp stamp :=
  List.take_left' (length_encodeStamp stamp)

/-- Whether a picture is taken for an announcement is a matter of its time stamp. -/
lemma tagged_iff_take (stamp : Int64) (rest : Bytes) :
    (encodeStamp stamp ++ rest).take tag.length = tag ↔ Tagged stamp := by
  rw [Tagged, List.take_append_of_le_length (by simp [stampLength])]

/-- A byte string that starts with something else than an announcement, and long enough to tell. -/
def StartsPicture (bytes : Bytes) : Prop :=
  tag.length ≤ bytes.length ∧ bytes.take tag.length ≠ tag

/-- All that `decode` can make of a byte string, and where it does. -/
inductive Decodes (bytes : Bytes) (current : Option Size) (limit : Nat) : Decoded → Prop where
  | short :
    bytes.length < tag.length →
    Decodes bytes current limit (.more 0)
  | begun :
    tag.length ≤ bytes.length →
    bytes.take tag.length = tag →
    bytes.length < announcementLength →
    Decodes bytes current limit (.more 0)
  | announcement {size rest} :
    bytes = encodeSize size ++ rest →
    size.isEmpty = false →
    Decodes bytes current limit (.record (.announcement size) rest)
  | empty {size rest} :
    bytes = encodeSize size ++ rest →
    size.isEmpty = true →
    Decodes bytes current limit (.malformed (.emptySize size) rest)
  | unknown :
    StartsPicture bytes →
    current = none →
    Decodes bytes current limit (.malformed .sizeUnknown bytes)
  | oversize {size} :
    StartsPicture bytes →
    current = some size →
    limit < size.frameBytes →
    Decodes bytes current limit (.malformed (.oversize size.frameBytes limit) bytes)
  | unaddressable {size} :
    StartsPicture bytes →
    current = some size →
    size.frameBytes ≤ limit →
    Bytes.maxWord < stampLength + size.frameBytes →
    Decodes bytes current limit .unaddressable
  | waiting {size} :
    StartsPicture bytes →
    current = some size →
    size.frameBytes ≤ limit →
    stampLength + size.frameBytes ≤ Bytes.maxWord →
    bytes.length < stampLength + size.frameBytes →
    Decodes bytes current limit (.more (stampLength + size.frameBytes))
  | picture {size} :
    StartsPicture bytes →
    current = some size →
    size.frameBytes ≤ limit →
    stampLength + size.frameBytes ≤ Bytes.maxWord →
    stampLength + size.frameBytes ≤ bytes.length →
    Decodes bytes current limit
      (.record
        (.picture ⟨decodeStamp (bytes.take stampLength), size,
          (bytes.drop stampLength).take size.frameBytes⟩)
        (bytes.drop (stampLength + size.frameBytes)))

/-- There is nothing else that `decode` does. -/
lemma decodes (bytes : Bytes) (current : Option Size) (limit : Nat) :
    Decodes bytes current limit (decode bytes current limit) := by
  -- in the order in which the decoder looks: is there a tag, is it the one of an announcement, is all of it there
  by_cases few : bytes.length < tag.length
  · rw [decode_short few]
    exact .short few
  by_cases tagged : bytes.take tag.length = tag
  · by_cases cut : bytes.length < announcementLength
    · rw [decode_begun (by omega) tagged cut]
      exact .begun (by omega) tagged cut
    · obtain ⟨size, rest, rfl⟩ := exists_encodeSize tagged (by omega)
      rw [decode_encodeSize]
      split
      case isTrue none => exact .empty rfl none
      case isFalse pixels => exact .announcement rfl (by simpa using pixels)
  · have start : StartsPicture bytes := ⟨by omega, tagged⟩
    rw [decode_untagged start.1 start.2]
    cases current with
    | none => exact .unknown start rfl
    | some size =>
      simp only
      split
      case isTrue large => exact .oversize start rfl large
      split
      case isTrue beyond => exact .unaddressable start rfl (by omega) beyond
      split
      case isTrue less => exact .waiting start rfl (by omega) (by omega) less
      case isFalse => exact .picture start rfl (by omega) (by omega) (by omega)

/-- Each case settles what `decode` does. -/
lemma Decodes.eq {d : Decoded} (h : Decodes bytes current limit d) :
    decode bytes current limit = d := by
  cases h with
  | short few => exact decode_short few
  | begun long tagged cut => exact decode_begun long tagged cut
  | announcement whole pixels => rw [whole, decode_encodeSize, if_neg (by simp [pixels])]
  | empty whole none => rw [whole, decode_encodeSize, if_pos none]
  | unknown start known => rw [decode_untagged start.1 start.2, known]
  | oversize start known large =>
    rw [decode_untagged start.1 start.2, known]
    exact if_pos large
  | unaddressable start known within beyond =>
    rw [decode_untagged start.1 start.2, known]
    simp only
    rw [if_neg (by omega), if_pos beyond]
  | waiting start known within counted less =>
    rw [decode_untagged start.1 start.2, known]
    simp only
    rw [if_neg (by omega), if_neg (by omega), if_pos less]
  | picture start known within counted all =>
    rw [decode_untagged start.1 start.2, known]
    simp only
    rw [if_neg (by omega), if_neg (by omega), if_neg (by omega)]

/-- Bytes that start a picture still do when more follow. -/
lemma StartsPicture.append (start : StartsPicture bytes) (later : Bytes) :
    StartsPicture (bytes ++ later) := by
  obtain ⟨long, untagged⟩ := start
  refine ⟨?_, by rwa [List.take_append_of_le_length long]⟩
  rw [List.length_append]
  omega

/-- A time stamp that does not look like the tag starts a picture. -/
lemma startsPicture_encodeStamp {stamp : Int64} (untagged : ¬Tagged stamp) (rest : Bytes) :
    StartsPicture (encodeStamp stamp ++ rest) := by
  refine ⟨?_, by rwa [Ne, tagged_iff_take]⟩
  simp only [length_tag, List.length_append, length_encodeStamp, stampLength]
  omega

/-- A record that fits is read off the front of what follows it, if its length can be counted. -/
lemma decode_encode {r : Record} (fits : r.Fits current limit)
    (counted : r.encode.length ≤ Bytes.maxWord) (rest : Bytes) :
    decode (r.encode ++ rest) current limit = .record r rest := by
  cases fits with
  | announcement pixels => exact (Decodes.announcement rfl pixels).eq
  | @picture stamp size payload announced long within untagged =>
    simp only [Record.encode, List.length_append, length_encodeStamp, long] at counted
    have exact : size.frameBytes = payload.length := by
      rw [long, Size.frameBytes_of_le (by omega)]
    have all : stampLength + size.frameBytes ≤ (encodeStamp stamp ++ (payload ++ rest)).length := by
      simp only [List.length_append, length_encodeStamp, exact]
      omega
    have start := startsPicture_encodeStamp untagged (payload ++ rest)
    rw [Record.encode, List.append_assoc,
      (Decodes.picture start announced (by omega) (by omega) all).eq]
    rw [take_encodeStamp, decodeStamp_encodeStamp, exact, ← List.drop_drop,
      List.drop_left' (length_encodeStamp stamp), List.take_left, List.drop_left]

/-- Only a record that fits is read, and what is taken off the front is its encoding. -/
lemma of_decode_record {r : Record} (h : decode bytes current limit = .record r rest) :
    bytes = r.encode ++ rest ∧ r.Fits current limit ∧ r.encode.length ≤ Bytes.maxWord := by
  have decoded := decodes bytes current limit
  rw [h] at decoded
  cases decoded with
  | announcement whole pixels =>
    refine ⟨whole, .announcement pixels, ?_⟩
    rw [Record.encode, length_encodeSize]
    decide
  | @picture size start known within counted all =>
    have stamp : (bytes.take stampLength).length = stampLength := by
      rw [List.length_take]
      omega
    have payload : ((bytes.drop stampLength).take size.frameBytes).length = size.frameBytes := by
      rw [List.length_take, List.length_drop]
      omega
    have exact : size.exactBytes = size.frameBytes :=
      Size.exactBytes_of_lt (by simp only [stampLength] at counted; omega)
    refine ⟨?_, .picture known (by rw [payload, exact]) (by omega) ?_, ?_⟩
    · rw [Record.encode, encodeStamp_decodeStamp stamp, List.append_assoc, ← List.drop_drop,
        List.take_append_drop, List.take_append_drop]
    · rw [Tagged, encodeStamp_decodeStamp stamp, List.take_take]
      exact start.2
    · rw [Record.encode, List.length_append, length_encodeStamp, payload]
      omega

/-- What becomes of a settled front when more bytes follow: they are left over as well. -/
def Decoded.append (later : Bytes) : Decoded → Decoded
  | .record r rest => .record r (rest ++ later)
  | .malformed cause rest => .malformed cause (rest ++ later)
  | .more room => .more room
  | .unaddressable => .unaddressable

/-- What is settled stays so, whatever follows: only a front that is waited for is read anew. -/
lemma decode_append (settled : ∀ room, decode bytes current limit ≠ .more room) (later : Bytes) :
    decode (bytes ++ later) current limit = (decode bytes current limit).append later := by
  have decoded := decodes bytes current limit
  generalize decode bytes current limit = d at decoded settled
  cases decoded with
  -- what is waited for is not settled
  | short => exact absurd rfl (settled _)
  | begun => exact absurd rfl (settled _)
  | waiting => exact absurd rfl (settled _)
  | announcement whole pixels =>
    exact (Decodes.announcement (by rw [whole, List.append_assoc]) pixels).eq
  | empty whole none => exact (Decodes.empty (by rw [whole, List.append_assoc]) none).eq
  | unknown start known => exact (Decodes.unknown (start.append later) known).eq
  | oversize start known large => exact (Decodes.oversize (start.append later) known large).eq
  | unaddressable start known within beyond =>
    exact (Decodes.unaddressable (start.append later) known within beyond).eq
  | @picture size start known within counted all =>
    have still : stampLength + size.frameBytes ≤ (bytes ++ later).length := by
      rw [List.length_append]
      omega
    -- the picture ends before what follows, so each cut falls into `bytes`
    have payload : size.frameBytes ≤ (bytes.drop stampLength).length := by
      rw [List.length_drop]
      omega
    rw [(Decodes.picture (start.append later) known within counted still).eq, Decoded.append,
      List.take_append_of_le_length (by omega), List.drop_append_of_le_length (by omega),
      List.drop_append_of_le_length all, List.take_append_of_le_length payload]

/-- A record is read just as well when more bytes follow, and these are left over. -/
lemma decode_append_record {r : Record} (read : decode bytes current limit = .record r rest) (later : Bytes) :
    decode (bytes ++ later) current limit = .record r (rest ++ later) := by
  rw [decode_append (by rw [read]; nofun), read, Decoded.append]

/-- Bytes are refused for the same reason when more follow, and these are left over. -/
lemma decode_append_malformed {cause : FrameError} (refused : decode bytes current limit = .malformed cause rest)
    (later : Bytes) : decode (bytes ++ later) current limit = .malformed cause (rest ++ later) := by
  rw [decode_append (by rw [refused]; nofun), refused, Decoded.append]

/-- A record that has begun and has not ended is waited for. -/
lemma decode_of_isPrefix {r : Record} (fits : r.Fits current limit)
    (counted : r.encode.length ≤ Bytes.maxWord) (start : bytes <+: r.encode)
    (cut : bytes.length < r.encode.length) : ∃ room, decode bytes current limit = .more room := by
  obtain ⟨later, whole⟩ := start
  have all := decode_encode fits counted []
  rw [List.append_nil, ← whole] at all
  -- were it settled, the rest of the record would be left over, and nothing is
  cases d : decode bytes current limit with
  | more room => exact ⟨room, rfl⟩
  | unaddressable =>
    rw [decode_append (by rw [d]; nofun), d] at all
    cases all
  | malformed cause rest =>
    rw [decode_append_malformed d] at all
    cases all
  | record r' rest =>
    rw [decode_append_record d, Decoded.record.injEq] at all
    obtain ⟨-, rfl⟩ := List.append_eq_nil_iff.1 all.2
    rw [← whole, List.append_nil] at cut
    omega

/-- A picture of a limited size is never too long to be counted. -/
lemma decode_ne_unaddressable (small : limit + stampLength ≤ Bytes.maxWord) :
    decode bytes current limit ≠ .unaddressable := by
  intro h
  have decoded := decodes bytes current limit
  rw [h] at decoded
  cases decoded with
  | unaddressable => omega

/-- A record that fits below such a limit has a length that can be counted. -/
lemma length_encode_le {r : Record} (fits : r.Fits current limit)
    (small : limit + stampLength ≤ Bytes.maxWord) : r.encode.length ≤ Bytes.maxWord := by
  cases fits with
  | announcement pixels =>
    rw [Record.encode, length_encodeSize]
    decide
  | picture announced long within untagged =>
    simp only [Record.encode, List.length_append, length_encodeStamp, long]
    omega

/-- An error of the decoder is about the bytes, not about where they come from. -/
lemma cause_of_decode {cause : FrameError} (h : decode bytes current limit = .malformed cause rest) :
    cause ≠ .ended ∧ ∀ io, cause ≠ .readFailed io := by
  have decoded := decodes bytes current limit
  rw [h] at decoded
  cases decoded <;> exact ⟨nofun, nofun⟩

/-- The bytes that are there after one reading. -/
def Decoded.left (bytes : Bytes) : Decoded → Bytes
  | .more _ => bytes
  | .record _ rest => rest
  | .malformed _ rest => rest
  | .unaddressable => bytes

/-- An error is about an announcement that was used up, or about bytes that are all left. -/
lemma of_decode_malformed {cause : FrameError} (h : decode bytes current limit = .malformed cause rest) :
    (∃ size, cause = .emptySize size ∧ bytes = encodeSize size ++ rest) ∨
      ((∀ size, cause ≠ .emptySize size) ∧ rest = bytes) := by
  have decoded := decodes bytes current limit
  rw [h] at decoded
  cases decoded with
  | @empty size rest whole none => exact .inl ⟨size, rfl, whole⟩
  | unknown | oversize => exact .inr ⟨nofun, rfl⟩

/-- Reading leaves all bytes unless it takes a record or refuses an announcement. -/
lemma left_decode_iff (bytes : Bytes) (current : Option Size) (limit : Nat) :
    (decode bytes current limit).left bytes = bytes ↔
      (∀ r rest, decode bytes current limit ≠ .record r rest) ∧
        ∀ size rest, decode bytes current limit ≠ .malformed (.emptySize size) rest := by
  cases d : decode bytes current limit with
  | more | unaddressable => simp [Decoded.left]
  | record r rest =>
    have fewer := length_lt_of_decode d
    refine ⟨fun same => ?_, fun none => absurd rfl (none.1 r rest)⟩
    rw [Decoded.left] at same
    rw [same] at fewer
    exact absurd fewer (Nat.lt_irrefl _)
  | malformed cause rest =>
    rcases of_decode_malformed d with ⟨size, rfl, whole⟩ | ⟨other, rfl⟩
    · refine ⟨fun same => ?_, fun none => absurd rfl (none.2 size rest)⟩
      rw [Decoded.left] at same
      have long := congrArg List.length whole
      rw [same, List.length_append, length_encodeSize, announcementLength] at long
      omega
    · simp only [Decoded.left, true_iff]
      constructor
      · rintro _ _ ⟨⟩
      · rintro size _ ⟨⟩
        exact other size rfl

end Wire

end PlanarPipe
