import Mathlib.Tactic.Lemma
import PlanarPipe.Proofs.Wire.Grammar
import PlanarPipe.Stream.Receiver

/-!
# What one call on a receiver does

A read call moves bytes from the source to the receiver and changes nothing of them. A call for a record
is thus settled by what `Wire.decode` makes of the bytes held before and those moved, or it waits and
keeps them: `Receiver.Yields` lists the cases and `Receiver.nextRecord_yields` shows that there are no
others. As what is settled stays so, all remaining bytes are decoded to the same
(`Receiver.decode_remaining`).

A source that does not fail and does not end early (`Source.Steady`) is read to its end:
`Receiver.records_of_steady` says that the records read one by one are those of the whole byte string.
-/

namespace PlanarPipe

namespace Source

def bytesOf : Delivery → Bytes
  | .bytes data => data
  | .failure _ => []
  | .nothing => []

/-- The bytes that a source has still to hand out. -/
def data (s : Source) : Bytes := s.deliveries.flatMap bytesOf

/-- A delivery of bytes, or an interruption. -/
def Delivers : Delivery → Prop
  | .bytes data => data ≠ []
  | .failure cause => cause.isInterrupted = true
  | .nothing => False

/-- A source that hands out bytes until there are none, and may be interrupted in between. -/
def Steady (s : Source) : Prop := ∀ d ∈ s.deliveries, Delivers d

variable {s s' : Source} {chunk : Bytes} {cause : IoError}

/-- What is read comes off the front of what is to be handed out. -/
lemma data_of_read_ok (h : s.read = (.ok chunk, s')) : s.data = chunk ++ s'.data := by
  unfold read at h
  split at h
  case h_1 none =>
    cases h
    simp [data, none]
  case h_2 later first =>
    cases h
    simp [data, first, bytesOf]
  case h_3 => cases h
  case h_4 bytes later first =>
    split at h
    case h_1 =>
      cases h
      simp [data, first, bytesOf]
    case h_2 =>
      cases h
      simp only [data, first, bytesOf, List.flatMap_cons, ← List.append_assoc,
        List.take_append_drop]

/-- A failed read takes nothing of what is to be handed out. -/
lemma data_of_read_error (h : s.read = (.error cause, s')) : s'.data = s.data := by
  unfold read at h
  split at h
  case h_1 => cases h
  case h_2 => cases h
  case h_3 later first =>
    cases h
    simp [data, first, bytesOf]
  case h_4 => split at h <;> cases h

/-- Reading leaves a steady source steady. It fails only by an interruption, and reports the end only
when all bytes are handed out. -/
lemma Steady.read (steady : s.Steady) {answer : Except IoError Bytes} (h : s.read = (answer, s')) :
    s'.Steady ∧ (∀ cause, answer = .error cause → cause.isInterrupted = true) ∧
      (answer = .ok [] → s'.data = []) := by
  unfold Source.read at h
  split at h
  case h_1 none =>
    cases h
    exact ⟨nofun, nofun, fun _ => rfl⟩
  case h_2 later first =>
    exact (steady .nothing (by simp [first])).elim
  case h_3 cause later first =>
    cases h
    refine ⟨fun d mem => steady d (by simp [first, mem]), ?_, nofun⟩
    rintro _ ⟨⟩
    exact steady (.failure cause) (by simp [first])
  case h_4 bytes later first =>
    have some : bytes ≠ [] := steady (.bytes bytes) (by simp [first])
    split at h
    case h_1 =>
      cases h
      exact ⟨fun d mem => steady d (by simp [first, mem]), nofun, fun none => by cases none; contradiction⟩
    case h_2 more =>
      cases h
      refine ⟨fun d mem => ?_, nofun, fun none => ?_⟩
      · cases mem with
        | head => exact more
        | tail _ mem => exact steady d (by rw [first]; exact List.mem_cons_of_mem _ mem)
      · simp [readLength, some] at none

end Source

/-- A call ends this way without a record, and the next one goes on from there. -/
inductive Reception.Waits : Reception → Prop where
  | ended :
    Waits (.failed .ended)
  /-- The source has failed, and not by an interruption. -/
  | failed {cause : IoError} :
    cause.isInterrupted = false →
    Waits (.failed (.readFailed cause))

namespace Receiver

open Wire

/-- The bytes that are not used up: those held and those to come. -/
def remaining (r : Receiver) : Bytes := r.backlog.toList ++ r.source.data

/-- What a call for a record can come to: what it answers, and what it leaves. In each case some bytes
are moved from the source to the receiver, and what is held then is looked at. -/
inductive Yields (r : Receiver) : Reception → Receiver → Prop where
  /-- The record at the front. -/
  | record {record r' moved} :
    r.source.data = moved ++ r'.source.data →
    decode (r.backlog.toList ++ moved) r.size r.limit = .record record r'.backlog.toList →
    r'.size = sizeAfter r.size record →
    Yields r (.record record) r'
  /-- An error about the front. -/
  | malformed {cause r' moved} :
    r.source.data = moved ++ r'.source.data →
    decode (r.backlog.toList ++ moved) r.size r.limit = .malformed cause r'.backlog.toList →
    r'.size = r.size →
    Yields r (.failed cause) r'
  /-- A picture that is too long to be counted. -/
  | unaddressable {r' moved} :
    r.source.data = moved ++ r'.source.data →
    decode (r.backlog.toList ++ moved) r.size r.limit = .unaddressable →
    Yields r .unaddressable r'
  /-- Nothing, because more bytes are needed; those that are there are kept. -/
  | waits {what r' moved room} :
    what.Waits →
    r.source.data = moved ++ r'.source.data →
    r'.backlog.toList = r.backlog.toList ++ moved →
    decode r'.backlog.toList r.size r.limit = .more room →
    r'.size = r.size →
    Yields r what r'

variable {r r' final : Receiver} {what : Reception} {moved : Bytes}

/-- Bytes that are moved before a call could as well be moved by it. -/
lemma Yields.of_moved (yields : r'.Yields what final) (source : r.source.data = moved ++ r'.source.data)
    (held : r'.backlog.toList = r.backlog.toList ++ moved) (size : r'.size = r.size)
    (limit : r'.limit = r.limit) : r.Yields what final := by
  cases yields with
  | @record record _ later source' settled next =>
    rw [held, size, limit, List.append_assoc] at settled
    exact .record (by rw [source, source', List.append_assoc]) settled (by rw [next, size])
  | @malformed cause _ later source' settled next =>
    rw [held, size, limit, List.append_assoc] at settled
    exact .malformed (by rw [source, source', List.append_assoc]) settled (next.trans size)
  | @unaddressable _ later source' settled =>
    rw [held, size, limit, List.append_assoc] at settled
    exact .unaddressable (by rw [source, source', List.append_assoc]) settled
  | @waits _ _ later room waits source' held' more next =>
    rw [size, limit] at more
    exact .waits waits (by rw [source, source', List.append_assoc])
      (by rw [held', held, List.append_assoc]) more (next.trans size)

/-- What settles the bytes held settles all that remain: those to come are left over. -/
lemma decode_remaining (source : r.source.data = moved ++ r'.source.data)
    (settled : ∀ room, decode (r.backlog.toList ++ moved) r.size r.limit ≠ .more room) :
    decode r.remaining r.size r.limit =
      (decode (r.backlog.toList ++ moved) r.size r.limit).append r'.source.data := by
  rw [remaining, source, ← List.append_assoc, decode_append settled]

/-- A read call after which the receiver goes on moved what it read behind the bytes held. -/
lemma readMore_again (h : r.readMore = .again r') :
    ∃ moved, r.source.data = moved ++ r'.source.data ∧
      r'.backlog.toList = r.backlog.toList ++ moved ∧ r'.size = r.size ∧ r'.limit = r.limit := by
  unfold readMore at h
  split at h
  case h_1 => cases h
  case h_2 chunk source _ read =>
    cases h
    exact ⟨chunk, Source.data_of_read_ok read, Backlog.toList_push .., rfl, rfl⟩
  case h_3 cause source read =>
    split at h
    · cases h
      exact ⟨[], (Source.data_of_read_error read).symm, (List.append_nil _).symm, rfl, rfl⟩
    · cases h

/-- One that ends the call for a record took nothing and left the bytes held as they were. -/
lemma readMore_done (h : r.readMore = .done what r') :
    what.Waits ∧ r.source.data = r'.source.data ∧ r'.backlog = r.backlog ∧ r'.size = r.size ∧
      r'.limit = r.limit := by
  unfold readMore at h
  split at h
  case h_1 source read =>
    cases h
    exact ⟨.ended, Source.data_of_read_ok read, rfl, rfl, rfl⟩
  case h_2 => cases h
  case h_3 cause source read =>
    split at h
    case isTrue => cases h
    case isFalse loud =>
      cases h
      exact ⟨.failed (by simpa using loud), (Source.data_of_read_error read).symm, rfl, rfl, rfl⟩

/-- A step is a read call where the bytes held settle nothing, and else what they are decoded to. -/
lemma advance_eq (r : Receiver) :
    r.advance =
      match decode r.backlog.toList r.size r.limit with
      | .more _ => r.readMore
      | .record record rest =>
        .done (.record record)
          { r with backlog := .ofList rest, size := sizeAfter r.size record }
      | .malformed cause rest => .done (.failed cause) { r with backlog := .ofList rest }
      | .unaddressable => .done .unaddressable r := by
  rw [← take_recognise, advance]
  cases recognise r.backlog.head r.backlog.count r.size r.limit <;> rfl

/-- A step after which the receiver goes on was such a read call. -/
lemma advance_again (h : r.advance = .again r') :
    ∃ moved, r.source.data = moved ++ r'.source.data ∧
      r'.backlog.toList = r.backlog.toList ++ moved ∧ r'.size = r.size ∧ r'.limit = r.limit := by
  rw [advance_eq] at h
  split at h
  case h_1 => exact readMore_again h
  all_goals cases h

/-- A step that ends the call yields what the call is answered with. -/
lemma advance_done (h : r.advance = .done what r') : r.Yields what r' ∧ r'.limit = r.limit := by
  rw [advance_eq] at h
  have unmoved : r.source.data = [] ++ r.source.data := (List.nil_append _).symm
  split at h
  case h_1 room more =>
    obtain ⟨waits, source, held, size, limit⟩ := readMore_done h
    exact ⟨.waits waits (source.trans (List.nil_append _).symm) (by rw [held, List.append_nil])
      (by rw [held, more]) size, limit⟩
  case h_2 record rest settled =>
    cases h
    have held : decode (r.backlog.toList ++ []) r.size r.limit =
        .record record (Backlog.ofList rest).toList := by
      rw [List.append_nil, settled, Backlog.toList_ofList]
    exact ⟨.record unmoved held rfl, rfl⟩
  case h_3 cause rest settled =>
    cases h
    have held : decode (r.backlog.toList ++ []) r.size r.limit =
        .malformed cause (Backlog.ofList rest).toList := by
      rw [List.append_nil, settled, Backlog.toList_ofList]
    exact ⟨.malformed unmoved held rfl, rfl⟩
  case h_4 settled =>
    cases h
    exact ⟨.unaddressable unmoved (by rw [List.append_nil, settled]), rfl⟩

/-- A call for a record settles the front of the bytes held, or waits. -/
lemma nextRecord_yields (r : Receiver) :
    r.Yields r.nextRecord.1 r.nextRecord.2 ∧ r.nextRecord.2.limit = r.limit := by
  induction r using nextRecord.induct with
  | case1 r r' again ih =>
    obtain ⟨moved, source, held, size, limit⟩ := advance_again again
    rw [nextRecord_again again]
    exact ⟨ih.1.of_moved source held size limit, ih.2.trans limit⟩
  | case2 r what r' done =>
    rw [nextRecord_done done]
    exact advance_done done

/-- A step leaves a steady source steady, and waits only for more than there is. -/
lemma advance_steady (steady : r.source.Steady) :
    (∀ r', r.advance = .again r' → r'.source.Steady) ∧
      ∀ what r', r.advance = .done what r' →
        r'.source.Steady ∧ (what.Waits → what = .failed .ended ∧ r'.source.data = []) := by
  -- the source is touched only where more is asked for, and only there a call can wait
  rw [advance_eq]
  split
  case h_1 =>
    unfold readMore
    split
    case h_1 source read =>
      obtain ⟨steady', -, spent⟩ := steady.read read
      refine ⟨nofun, ?_⟩
      rintro _ _ ⟨⟩
      exact ⟨steady', fun _ => ⟨rfl, spent rfl⟩⟩
    case h_2 chunk source _ read =>
      refine ⟨?_, fun _ _ done => by cases done⟩
      rintro _ ⟨⟩
      exact (steady.read read).1
    case h_3 cause source read =>
      obtain ⟨steady', interrupted, -⟩ := steady.read read
      rw [if_pos (interrupted cause rfl)]
      refine ⟨?_, fun _ _ done => by cases done⟩
      rintro _ ⟨⟩
      exact steady'
  case h_3 cause rest settled =>
    obtain ⟨notEnded, notFailed⟩ := cause_of_decode settled
    refine ⟨nofun, ?_⟩
    rintro _ _ ⟨⟩
    refine ⟨steady, fun waits => ?_⟩
    cases waits with
    | ended => exact absurd rfl notEnded
    | failed loud => exact absurd rfl (notFailed _)
  all_goals
    refine ⟨nofun, ?_⟩
    rintro _ _ ⟨⟩
    exact ⟨steady, nofun⟩

/-- A call on a steady source leaves it steady, and ends without an answer about bytes only when they are all handed
out. -/
lemma nextRecord_steady (r : Receiver) (steady : r.source.Steady) :
    r.nextRecord.2.source.Steady ∧
      (r.nextRecord.1.Waits → r.nextRecord.1 = .failed .ended ∧ r.nextRecord.2.source.data = []) := by
  induction r using nextRecord.induct with
  | case1 r r' again ih =>
    rw [nextRecord_again again]
    exact ih ((advance_steady steady).1 r' again)
  | case2 r what r' done =>
    rw [nextRecord_done done]
    exact (advance_steady steady).2 what r' done

/-- Only the end of the stream is told by an iterator in another way. -/
lemma next?_of_settled (call : r.nextRecord = (what, r')) (settled : what ≠ .failed .ended) :
    r.next? = (some what, r') := by
  rw [next?, call]
  split
  · rename_i eq
    cases eq
    exact absurd rfl settled
  · rename_i eq
    cases eq
    rfl

/-- The end of the source is told as an error exactly where it is inside a record. -/
lemma next?_of_ended (call : r.nextRecord = (.failed .ended, r')) :
    r.next? = (if r'.backlog.toList = [] then none else some (.failed .ended), r') := by
  rw [next?, call]
  simp only [Backlog.count_eq_length, List.length_eq_zero_iff]
  split <;> rfl

/-- The records that remain are the next one, and those that remain after it. -/
lemma records_eq (r : Receiver) :
    r.records =
      match r.next? with
      | (some (.record record), r') => (record :: r'.records.1, r'.records.2)
      | (ending, r') => ([], ending, r') := by
  rw [records]
  split <;> simp_all

/-- How the reading of a byte string to its end is told. -/
def endingOf : Ending → Option Reception
  | .more [] => none
  | .more (_ :: _) => some (.failed .ended)
  | .malformed cause _ => some (.failed cause)
  | .unaddressable _ => some .unaddressable

/-- From a steady source come the records of the whole byte string, however it is handed out. -/
lemma records_of_steady (r : Receiver) (steady : r.source.Steady) :
    r.records.1 = (decodeAll r.remaining r.size r.limit).1 ∧
      r.records.2.1 = endingOf (decodeAll r.remaining r.size r.limit).2 := by
  -- along the loop of the reader: a record is the front of what remains, and `remaining` carries the bytes on from
  -- call to call however they are handed out
  induction r using records.induct with
  | case1 r record r' first later ending final rest ih =>
    have call := nextRecord_of_next? first
    obtain ⟨yields, limit⟩ := r.nextRecord_yields
    obtain ⟨steady', -⟩ := r.nextRecord_steady steady
    rw [call] at yields limit steady'
    cases yields with
    | waits waits => cases waits
    | record source settled size =>
      obtain ⟨records, ending⟩ := ih steady'
      rw [records_eq, first, decodeAll_eq, decode_remaining source (by rw [settled]; nofun), settled]
      rw [size, limit] at records ending
      exact ⟨congrArg (record :: ·) records, ending⟩
  | case2 r ending r' noRecord last =>
    have last_call : r.records = ([], ending, r') := by
      rw [records_eq, last]
      cases ending with
      | none => rfl
      | some what =>
        cases what with
        | record record => exact (noRecord record rfl).elim
        | failed => rfl
        | unaddressable => rfl
    obtain ⟨yields, -⟩ := r.nextRecord_yields
    obtain ⟨-, spent⟩ := r.nextRecord_steady steady
    cases call : r.nextRecord with
    | mk what final =>
      rw [call] at yields spent
      rw [last_call]
      cases yields with
      | record =>
        rw [next?_of_settled call nofun] at last
        cases last
        exact (noRecord _ rfl).elim
      | malformed source settled =>
        obtain ⟨notEnded, -⟩ := cause_of_decode settled
        rw [next?_of_settled call (by simpa using notEnded)] at last
        cases last
        rw [decodeAll_eq, decode_remaining source (by rw [settled]; nofun), settled]
        exact ⟨rfl, rfl⟩
      | unaddressable source settled =>
        rw [next?_of_settled call nofun] at last
        cases last
        rw [decodeAll_eq, decode_remaining source (by rw [settled]; nofun), settled]
        exact ⟨rfl, rfl⟩
      | waits waits source held more =>
        obtain ⟨rfl, none⟩ := spent waits
        -- nothing is to come, so the bytes held are all that remain
        have held : final.backlog.toList = r.remaining := by
          rw [held, remaining, source, none, List.append_nil]
        rw [next?_of_ended call, held] at last
        rw [held] at more
        rw [decodeAll_eq, more]
        refine ⟨rfl, ?_⟩
        cases bytes : r.remaining with
        | nil =>
          rw [bytes, if_pos rfl] at last
          cases last
          rfl
        | cons b rest =>
          rw [bytes, if_neg (List.cons_ne_nil b rest)] at last
          cases last
          rfl

end Receiver

end PlanarPipe
