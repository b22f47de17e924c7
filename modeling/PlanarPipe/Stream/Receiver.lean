import PlanarPipe.Stream.Backlog
import PlanarPipe.Stream.Source

/-!
# Reading a stream

A receiver takes records off a byte source. It reads only when the bytes it holds do not settle the
next record, keeps what it has when a read fails or the source ends, and repeats interrupted reads.
One read call, or one record taken off the bytes held, is a step (`advance`); `nextRecord` makes steps
until one of them ends the call.
-/

namespace PlanarPipe

/-- A reader of records: its source, the bytes held, the size announced last, and the longest picture
it takes. -/
structure Receiver where
  source : Source
  backlog : Backlog
  size : Option Size
  limit : Nat

/-- How a call for a record ends. -/
inductive Reception where
  | record (r : Record)
  | failed (cause : FrameError)
  /-- A picture too long to be counted: nothing is defined from here on. -/
  | unaddressable
  deriving DecidableEq, Repr

namespace Receiver

/-- A receiver at the start of a stream. -/
def start (source : Source) (limit : Nat) : Receiver :=
  { source, limit, backlog := .empty, size := none }

/-- What one step towards the next record comes to. -/
inductive Progress where
  | again (r : Receiver)
  | done (what : Reception) (r : Receiver)

/-- One read call: bytes are kept, an interruption changes nothing, anything else ends the call. -/
def readMore (r : Receiver) : Progress :=
  match r.source.read with
  | (.ok [], source) => .done (.failed .ended) { r with source }
  | (.ok chunk, source) => .again { r with source, backlog := r.backlog.push chunk }
  | (.error cause, source) =>
    if cause.isInterrupted then .again { r with source }
    else .done (.failed (.readFailed cause)) { r with source }

/-- One step: the record at the front if it is settled, else a read call. -/
def advance (r : Receiver) : Progress :=
  match Wire.recognise r.backlog.head r.backlog.count r.size r.limit with
  | .more _ => r.readMore
  | verdict =>
    match verdict.take r.backlog.toList with
    | .record record rest =>
      .done (.record record)
        { r with backlog := .ofList rest, size := Wire.sizeAfter r.size record }
    | .malformed cause rest => .done (.failed cause) { r with backlog := .ofList rest }
    | .more _ | .unaddressable => .done .unaddressable r

/-- Bytes held and still to come: a bound on the records left. -/
def load (r : Receiver) : Nat := r.source.weight + r.backlog.count

/-- A read call that is followed by another one leaves fewer of them. -/
theorem weight_of_readMore_again {r r' : Receiver} (h : r.readMore = .again r') :
    r'.source.weight < r.source.weight ∧ r'.load ≤ r.load := by
  unfold readMore at h
  split at h
  · simp at h
  · rename_i chunk source nonempty read
    simp only [Progress.again.injEq] at h
    subst h
    have left := Source.weight_of_read_ok read
    have some : 0 < chunk.length := List.length_pos_iff.2 (by simpa using nonempty)
    simp only [load, Backlog.count_push]
    omega
  · rename_i cause source read
    split at h
    · simp only [Progress.again.injEq] at h
      subst h
      have left := Source.weight_of_read_error read
      simp only [load]
      omega
    · simp at h

/-- The settled front of the bytes held is what `Wire.decode` makes of them. -/
theorem take_recognise (r : Receiver) :
    (Wire.recognise r.backlog.head r.backlog.count r.size r.limit).take r.backlog.toList =
      Wire.decode r.backlog.toList r.size r.limit := by
  rw [Backlog.head_eq, Backlog.count_eq_length, Wire.decode]

/-- A step that ends nothing is a read call, and leaves fewer of them. -/
theorem weight_of_advance_again {r r' : Receiver} (h : r.advance = .again r') :
    r'.source.weight < r.source.weight ∧ r'.load ≤ r.load := by
  unfold advance at h
  split at h
  · exact weight_of_readMore_again h
  · split at h <;> simp at h

/-- A read call alone does not end with a record. -/
theorem record_ne_of_readMore {r r' : Receiver} {record : Record} :
    r.readMore ≠ .done (.record record) r' := by
  unfold readMore
  split
  · simp
  · simp
  · split <;> simp

/-- A step that ends with a record takes bytes off those held. -/
theorem load_of_advance_record {r r' : Receiver} {record : Record}
    (h : r.advance = .done (.record record) r') : r'.load < r.load := by
  unfold advance at h
  split at h
  · exact absurd h record_ne_of_readMore
  · split at h
    · rename_i record' rest taken
      rw [take_recognise] at taken
      have fewer := Wire.length_lt_of_decode taken
      simp only [Progress.done.injEq] at h
      obtain ⟨-, rfl⟩ := h
      simp only [load, Backlog.count_eq_length, Backlog.toList_ofList]
      omega
    · simp at h
    · simp at h
    · simp at h

def nextRecord (r : Receiver) : Reception × Receiver :=
  match _h : r.advance with
  | .again r' => nextRecord r'
  | .done what r' => (what, r')
termination_by r.source.weight
decreasing_by exact (weight_of_advance_again _h).1

/-- A call for a record is a step, and the call again if the step does not end it. -/
theorem nextRecord_eq (r : Receiver) :
    r.nextRecord =
      match r.advance with
      | .again r' => r'.nextRecord
      | .done what r' => (what, r') := by
  rw [nextRecord]
  split <;> simp_all

/-- After a step that does not end it, the call goes on. -/
theorem nextRecord_again {r r' : Receiver} (again : r.advance = .again r') :
    r.nextRecord = r'.nextRecord := by
  rw [nextRecord_eq, again]

/-- A step that ends the call answers it. -/
theorem nextRecord_done {r r' : Receiver} {what : Reception} (done : r.advance = .done what r') :
    r.nextRecord = (what, r') := by
  rw [nextRecord_eq, done]

/-- A record that was read is no longer to come. -/
theorem load_of_nextRecord {r r' : Receiver} {record : Record}
    (h : r.nextRecord = (.record record, r')) : r'.load < r.load := by
  -- a step that only moves bytes does not raise the load, and the step that reads the record lowers it
  induction r using nextRecord.induct with
  | case1 r next again ih =>
    rw [nextRecord_again again] at h
    exact Nat.lt_of_lt_of_le (ih h) (weight_of_advance_again again).2
  | case2 r what next done =>
    rw [nextRecord_done done] at h
    cases h
    exact load_of_advance_record done

/-- How a call for a picture ends. -/
inductive PictureReception where
  | picture (p : Picture)
  | failed (cause : FrameError)
  | unaddressable
  deriving DecidableEq, Repr

/-- The next picture; announcements before it are taken in. -/
def nextPicture (r : Receiver) : PictureReception × Receiver :=
  match _h : r.nextRecord with
  | (.record (.picture p), r') => (.picture p, r')
  | (.record (.announcement _), r') => nextPicture r'
  | (.failed cause, r') => (.failed cause, r')
  | (.unaddressable, r') => (.unaddressable, r')
termination_by r.load
decreasing_by exact load_of_nextRecord _h

/-- The next record, or none if the stream ended where a record may end. -/
def next? (r : Receiver) : Option Reception × Receiver :=
  match r.nextRecord with
  | (.failed .ended, r') => if r'.backlog.count = 0 then (none, r') else (some (.failed .ended), r')
  | (what, r') => (some what, r')

/-- A record that the iterator gives is one that a call for a record gives. -/
theorem nextRecord_of_next? {r r' : Receiver} {record : Record}
    (h : r.next? = (some (.record record), r')) : r.nextRecord = (.record record, r') := by
  unfold next? at h
  split at h
  · split at h <;> simp at h
  · rename_i what next eq
    simp only [Prod.mk.injEq, Option.some.injEq] at h
    obtain ⟨rfl, rfl⟩ := h
    exact eq

/-- All records to the end of the stream or the first failure, and how they end: with `none` where a
record may end. -/
def records (r : Receiver) : List Record × Option Reception × Receiver :=
  match _h : r.next? with
  | (some (.record record), r') =>
    let (later, ending, final) := records r'
    (record :: later, ending, final)
  | (ending, r') => ([], ending, r')
termination_by r.load
decreasing_by exact load_of_nextRecord (nextRecord_of_next? _h)

end Receiver

end PlanarPipe
