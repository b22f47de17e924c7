import PlanarPipe.Proofs.Wire.Grammar

/-!
# Decisions are final

What `decode` says of a byte string it says because of its front. A record that is read, or an error, stays
whatever bytes follow. Until then more is asked for and nothing is used up, and a byte string that is long enough
is answered in one way or the other (`settled_of_long`).

So a loop over records may read while the bytes come in (`Loops`). Each record takes its encoding off the
front, so that no loop goes on without using up bytes (`Loops.whole`, `Loops.progress`), and it would be read
just as well if all bytes were there from the start (`Loops.at_once`). Main statement: `decisions_are_final`.
-/

namespace PlanarPipe

/-- The bytes that a record takes, told from what it is and from the size of the picture. -/
def Record.room : Record → Nat
  | announcement _ => Wire.announcementLength
  | picture p => Wire.stampLength + p.size.frameBytes

/-- No record takes fewer bytes than a time stamp. -/
lemma Record.stampLength_le_room (r : Record) : Wire.stampLength ≤ r.room := by
  cases r with
  | announcement => exact (by decide : Wire.stampLength ≤ Wire.announcementLength)
  | picture => exact Nat.le_add_right ..

/-- A record that fits takes the bytes its size tells, if they can be counted. -/
lemma Record.Fits.length_encode {current : Option Size} {limit : Nat} {r : Record} (fits : r.Fits current limit)
    (counted : r.encode.length ≤ Bytes.maxWord) : r.encode.length = r.room := by
  cases fits with
  | announcement => exact Wire.length_encodeSize _
  | @picture stamp size payload _ long =>
    simp only [encode, List.length_append, Wire.length_encodeStamp, long] at counted ⊢
    have exact : size.frameBytes = size.exactBytes := Size.frameBytes_of_le (by omega)
    rw [room, exact]

namespace Wire

/-- There is an answer to the bytes: a record, or why there is none. -/
inductive Decoded.Settled : Decoded → Prop where
  | record {r rest} :
    Settled (.record r rest)
  | malformed {cause rest} :
    Settled (.malformed cause rest)

/-- A loop over records. The bytes of `fed` come in one piece after the other, and records are read off those
that are there, each with a size and a limit of its own. `rest` is left when the loop is left. -/
inductive Loops : Bytes → Bytes → List Record → Bytes → Prop where
  | leave {bytes} :
    Loops bytes [] [] bytes
  | feed {bytes piece fed records rest} :
    Loops (bytes ++ piece) fed records rest →
    Loops bytes (piece ++ fed) records rest
  | read {bytes current limit r left fed records rest} :
    decode bytes current limit = .record r left →
    Loops left fed records rest →
    Loops bytes fed (r :: records) rest

variable {bytes fed rest : Bytes} {current : Option Size} {limit : Nat} {r : Record} {records : List Record}

/-- Bytes that are as many as any record may take are not waited for. -/
lemma settled_of_long (small : limit + stampLength ≤ Bytes.maxWord)
    (announcement : announcementLength ≤ bytes.length) (picture : stampLength + limit ≤ bytes.length) :
    (decode bytes current limit).Settled := by
  have decoded := decodes bytes current limit
  generalize decode bytes current limit = d at decoded
  cases decoded with
  | announcement | picture => exact .record
  | empty | unknown | oversize => exact .malformed
  | short few =>
    simp only [length_tag, announcementLength] at few announcement
    omega
  | begun _ _ cut => omega
  | unaddressable => omega
  | waiting => omega

/-- A record that is read takes its own encoding off the front, as long as its size tells. -/
lemma front_of_decode (read : decode bytes current limit = .record r rest) :
    bytes = r.encode ++ rest ∧ r.encode.length = r.room := by
  obtain ⟨front, fits, counted⟩ := of_decode_record read
  exact ⟨front, fits.length_encode counted⟩

/-- What is read while bytes come in is read just as well when they are all there. -/
lemma Loops.at_once (loops : Loops bytes fed records rest) : Loops (bytes ++ fed) [] records rest := by
  induction loops with
  | leave =>
    rw [List.append_nil]
    exact .leave
  | feed _ ih => rwa [← List.append_assoc]
  | read read _ ih => exact .read (decode_append_record read _) ih

/-- The bytes that were there and that came in are those of the records that were read, and what is left. -/
lemma Loops.whole (loops : Loops bytes fed records rest) : bytes ++ fed = encodeAll records ++ rest := by
  induction loops with
  | leave => exact List.append_nil _
  | feed _ ih => rwa [← List.append_assoc]
  | read read _ ih =>
    rw [(front_of_decode read).1, List.append_assoc, ih, encodeAll_cons, List.append_assoc]

/-- Each record that is read used up the bytes of a time stamp, or more. -/
lemma Loops.progress (loops : Loops bytes fed records rest) :
    stampLength * records.length + rest.length ≤ (bytes ++ fed).length := by
  induction loops with
  | leave =>
    rw [List.append_nil]
    exact Nat.le_of_eq (Nat.zero_add _)
  | feed _ ih => rwa [← List.append_assoc]
  | @read bytes current limit r left fed records rest read _ ih =>
    obtain ⟨front, long⟩ := front_of_decode read
    have room := r.stampLength_le_room
    rw [List.length_append] at ih
    rw [front, List.length_append, List.length_append, long, List.length_cons, Nat.mul_succ]
    omega

/-- Reading a byte string to its end is such a loop, which nothing comes in for. -/
lemma exists_loops (bytes : Bytes) (current : Option Size) (limit : Nat) :
    ∃ rest, Loops bytes [] (decodeAll bytes current limit).1 rest := by
  induction bytes, current using decodeAll.induct limit with
  | case1 bytes current room found | case2 bytes current cause left found | case3 bytes current found =>
    rw [decodeAll_eq, found]
    exact ⟨bytes, .leave⟩
  | case4 bytes current r left first records ending later ih =>
    obtain ⟨rest, loops⟩ := ih
    simp only [decodeAll_eq bytes, first]
    exact ⟨rest, .read first loops⟩

/-- Decoding comes to one of three ends, where the limit leaves room for a time stamp. A record is read: it is
read whatever bytes follow, which are then left over as well, and what was taken off the front is its encoding,
as long as its size tells. Or the bytes are refused: they are refused alike whatever follows, which is left
over as well. Or more is asked for: all bytes are left, and any bytes that follow settle the matter once there
are enough of them. A loop over records, such as reading to the end, thus uses up the encodings of the records
that it reads, eight bytes or more for each, and reads the same records if the bytes that came in were there from
the start. -/
theorem decisions_are_final (small : limit + stampLength ≤ Bytes.maxWord) (bytes : Bytes) (current : Option Size) :
    let decoded := decode bytes current limit
    ((∃ r rest, decoded = .record r rest ∧
          (∀ later, decode (bytes ++ later) current limit = .record r (rest ++ later)) ∧
          bytes = r.encode ++ rest ∧ r.encode.length = r.room) ∨
        (∃ cause rest, decoded = .malformed cause rest ∧
          ∀ later, decode (bytes ++ later) current limit = .malformed cause (rest ++ later)) ∨
        ∃ room, decoded = .more room ∧ decoded.left bytes = bytes ∧
          ∃ enough, ∀ later, enough ≤ later.length → (decode (bytes ++ later) current limit).Settled) ∧
      (∀ fed records rest, Loops bytes fed records rest →
        bytes ++ fed = encodeAll records ++ rest ∧
          stampLength * records.length + rest.length ≤ (bytes ++ fed).length ∧
          Loops (bytes ++ fed) [] records rest) ∧
      ∃ rest, Loops bytes [] (decodeAll bytes current limit).1 rest := by
  intro decoded
  refine ⟨?_, fun fed records rest loops => ⟨loops.whole, loops.progress, loops.at_once⟩, exists_loops ..⟩
  cases d : decode bytes current limit with
  | unaddressable => exact absurd d (decode_ne_unaddressable small)
  | record r rest => exact .inl ⟨r, rest, d, decode_append_record d, front_of_decode d⟩
  | malformed cause rest => exact .inr (.inl ⟨cause, rest, d, decode_append_malformed d⟩)
  | more room =>
    refine .inr (.inr ⟨room, d, ?_, announcementLength + (stampLength + limit), fun later enough => ?_⟩)
    · simp only [decoded, d, Decoded.left]
    · apply settled_of_long small
      · rw [List.length_append]
        omega
      · rw [List.length_append]
        omega

/-- Four bytes of a picture of millions are refused for ever. Nine bytes of an announcement are not, and are
decided upon in time. -/
theorem decisions_are_final_early :
    1024 + stampLength ≤ Bytes.maxWord ∧
      (∀ later, decode ([1, 0, 0, 0] ++ later) (some ⟨1920, 1080⟩) 1024 =
        .malformed (.oversize 3110400 1024) ([1, 0, 0, 0] ++ later)) ∧
      ∃ enough, ∀ later, enough ≤ later.length →
        (decode ((encodeSize ⟨4, 4⟩).take 9 ++ later) none 1024).Settled := by
  have small : 1024 + stampLength ≤ Bytes.maxWord := by decide
  have refused : decode [1, 0, 0, 0] (some ⟨1920, 1080⟩) 1024 =
      .malformed (.oversize 3110400 1024) [1, 0, 0, 0] := by decide
  have begun : decode ((encodeSize ⟨4, 4⟩).take 9) none 1024 = .more 0 := by decide
  refine ⟨small, ?_, ?_⟩
  · rcases (decisions_are_final small [1, 0, 0, 0] (some ⟨1920, 1080⟩)).1 with
      ⟨r, rest, read, -⟩ | ⟨cause, rest, told, final⟩ | ⟨room, more, -⟩
    · exact absurd (read.symm.trans refused) nofun
    · cases told.symm.trans refused
      exact final
    · exact absurd (more.symm.trans refused) nofun
  · rcases (decisions_are_final small ((encodeSize ⟨4, 4⟩).take 9) none).1 with
      ⟨r, rest, read, -⟩ | ⟨cause, rest, told, -⟩ | ⟨room, -, -, enough⟩
    · exact absurd (read.symm.trans begun) nofun
    · exact absurd (told.symm.trans begun) nofun
    · exact enough

end Wire

end PlanarPipe
