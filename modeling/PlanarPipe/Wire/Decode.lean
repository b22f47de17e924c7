import PlanarPipe.Wire.Record
import PlanarPipe.Video.Error

/-!
# Reading records

Which record a byte string starts with is settled by its first bytes and its length alone
(`recognise`): four bytes tell an announcement from a picture, and the size announced last tells how
long a picture is. `decode` takes the recognised record off the front.

Byte strings are as long as they may be. A buffer is not: room for a picture of more than `Bytes.maxSlice` bytes
cannot be had, so that a program which asks for it beforehand, as `Verdict.more` invites it to, breaks down there.
-/

namespace PlanarPipe.Wire

/-- What the front of a byte string is. -/
inductive Verdict where
  /-- The start of a record. The whole record takes `room` bytes, zero while that is not known. -/
  | more (room : Nat)
  | announcement (size : Size)
  /-- A picture with a payload of `length` bytes. -/
  | picture (stamp : Int64) (size : Size) (length : Nat)
  /-- No record, whatever follows. The first `skipped` bytes are used up all the same. -/
  | malformed (cause : FrameError) (skipped : Nat)
  /-- A picture whose length is beyond any 64-bit count. -/
  | unaddressable
  deriving DecidableEq, Repr

/-- As many first bytes as a decision may depend on. -/
def headLength : Nat := announcementLength

/-- The front of a byte string of `held` bytes that starts with `head`: its first `headLength` bytes,
or all of it if it is shorter. Pictures are sized by `current` and may hold up to `limit` bytes. -/
def recognise (head : Bytes) (held : Nat) (current : Option Size) (limit : Nat) : Verdict :=
  if held < tag.length then .more 0
  else if head.take tag.length = tag then
    if held < announcementLength then .more 0
    else
      let size : Size := ⟨decodeSide ((head.drop 4).take 4), decodeSide ((head.drop 8).take 4)⟩
      if size.isEmpty then .malformed (.emptySize size) announcementLength
      else .announcement size
  else
    match current with
    | none => .malformed .sizeUnknown 0
    | some size =>
      let length := size.frameBytes
      let total := stampLength + length
      if limit < length then .malformed (.oversize length limit) 0
      else if Bytes.maxWord < total then .unaddressable
      else if held < total then .more total
      else .picture (decodeStamp (head.take stampLength)) size length

/-- What becomes of a byte string when its front is read. -/
inductive Decoded where
  | more (room : Nat)
  | record (r : Record) (rest : Bytes)
  | malformed (cause : FrameError) (rest : Bytes)
  | unaddressable
  deriving DecidableEq, Repr

/-- The recognised record, taken off the front of a byte string. -/
def Verdict.take (bytes : Bytes) : Verdict → Decoded
  | .more room => .more room
  | .announcement size => .record (.announcement size) (bytes.drop announcementLength)
  | .picture stamp size length =>
    let rest := bytes.drop stampLength
    .record (.picture ⟨stamp, size, rest.take length⟩) (rest.drop length)
  | .malformed cause skipped => .malformed cause (bytes.drop skipped)
  | .unaddressable => .unaddressable

/-- Reads the record at the front of a byte string. -/
def decode (bytes : Bytes) (current : Option Size) (limit : Nat) : Decoded :=
  (recognise (bytes.take headLength) bytes.length current limit).take bytes

/-- The size that holds after a record. -/
def sizeAfter (current : Option Size) : Record → Option Size
  | .announcement size => some size
  | .picture _ => current

/-- How reading a whole byte string ends. -/
inductive Ending where
  /-- The rest is the start of a record, or nothing. -/
  | more (rest : Bytes)
  | malformed (cause : FrameError) (rest : Bytes)
  /-- The rest is a picture too long to be counted. -/
  | unaddressable (rest : Bytes)
  deriving DecidableEq, Repr

/-- A record is never empty, so that reading it leaves fewer bytes. -/
theorem length_lt_of_decode {bytes rest : Bytes} {current : Option Size} {limit : Nat} {r : Record}
    (h : decode bytes current limit = .record r rest) : rest.length < bytes.length := by
  simp only [decode, recognise] at h
  repeat' split at h
  all_goals simp only [Verdict.take, Decoded.record.injEq, reduceCtorEq] at h
  all_goals
    obtain ⟨-, rfl⟩ := h
    simp only [List.length_drop, length_tag, announcementLength, stampLength] at *
    omega

/-- Reads records off a byte string until no whole record is left. -/
def decodeAll (bytes : Bytes) (current : Option Size) (limit : Nat) : List Record × Ending :=
  match _h : decode bytes current limit with
  | .more _ => ([], .more bytes)
  | .malformed cause rest => ([], .malformed cause rest)
  | .unaddressable => ([], .unaddressable bytes)
  | .record r rest =>
    let (records, ending) := decodeAll rest (sizeAfter current r) limit
    (r :: records, ending)
termination_by bytes.length
decreasing_by exact length_lt_of_decode _h

end PlanarPipe.Wire
