import Mathlib.Tactic.Lemma
import PlanarPipe.Proofs.Stream.Reading

/-!
# Calls in any order

A receiver may be asked for records, for pictures and as an iterator, in any order, also after a call
that failed (`Request`). Main statement, `trace_accounts`: together the calls use up a first part of
what decoding finds in the whole byte string, each call a share of its own (`Serves`), and a call ends
without a finding only where the bytes received and not used up ask for more.

After every call the receiver holds exactly what decoding the bytes received so far leaves over
(`Receiver.Holds`). This is the invariant of a run: `Holds.call` is the step for one record,
`Holds.ask_served` the one for a whole call.
-/

namespace PlanarPipe

namespace Wire

/-- What one decoding finds, if it settles anything: the finding, the bytes that are left, and the size
that holds from there on. An error leaves the size as it is. -/
def Decoded.finding (current : Option Size) : Decoded → Option (Reception × Bytes × Option Size)
  | .record r rest => some (.record r, rest, sizeAfter current r)
  | .malformed cause rest => some (.failed cause, rest, current)
  | .more _ => none
  | .unaddressable => none

/-- Decoding again and again, each time what the last time left over, finds all of `found` in a byte
string and leaves `rest` and `size`. It goes on after an error. -/
inductive Finds (limit : Nat) :
    Bytes → Option Size → List Reception → Bytes → Option Size → Prop where
  | nil {bytes current} :
    Finds limit bytes current [] bytes current
  | cons {bytes current what next size found rest last} :
    (decode bytes current limit).finding current = some (what, next, size) →
    Finds limit next size found rest last →
    Finds limit bytes current (what :: found) rest last

variable {limit : Nat} {bytes rest : Bytes} {current size : Option Size} {found : List Reception}

/-- What is found, and what is found in the rest, is found together. -/
lemma Finds.append {found' rest' size'} (first : Finds limit bytes current found rest size)
    (later : Finds limit rest size found' rest' size') :
    Finds limit bytes current (found ++ found') rest' size' := by
  induction first with
  | nil => exact later
  | cons settled _ ih => exact .cons settled (ih later)

/-- What is found stays found when more bytes follow. They are left over as well. -/
lemma Finds.append_bytes (finds : Finds limit bytes current found rest size) (later : Bytes) :
    Finds limit (bytes ++ later) current found (rest ++ later) size := by
  induction finds with
  | nil => exact .nil
  | @cons bytes current what next size found rest last settled _ ih =>
    refine .cons ?_ ih
    cases d : decode bytes current limit with
    | more room => rw [d] at settled; cases settled
    | unaddressable => rw [d] at settled; cases settled
    | record r left =>
      rw [decode_append_record d]
      rw [d] at settled
      cases settled
      rfl
    | malformed cause left =>
      rw [decode_append_malformed d]
      rw [d] at settled
      cases settled
      rfl

/-- Of two rows of findings in one byte string, one is the start of the other. -/
lemma Finds.comparable {found' rest' size'} (one : Finds limit bytes current found rest size)
    (other : Finds limit bytes current found' rest' size') :
    found <+: found' ∨ found' <+: found := by
  induction one generalizing found' with
  | nil => exact .inl (List.nil_prefix ..)
  | cons settled _ ih =>
    cases other with
    | nil => exact .inr (List.nil_prefix ..)
    | cons settled' later =>
      rw [settled] at settled'
      cases settled'
      rw [List.cons_prefix_cons, List.cons_prefix_cons]
      exact (ih later).imp (.intro rfl) (.intro rfl)

end Wire

/-- A call is answered with this where the front of the bytes is settled. -/
inductive Reception.Settled : Reception → Prop where
  | record (r) :
    Settled (.record r)
  | failed {cause} :
    cause ≠ .ended →
    (∀ io, cause ≠ .readFailed io) →
    Settled (.failed cause)

/-- The ways to ask a receiver for what comes next. -/
inductive Request where
  | record
  | picture
  | next
  deriving DecidableEq, Repr

/-- A call ends without a finding. -/
inductive Request.Waits : Request → Option Reception → Prop where
  | finished :
    Waits .next none
  | waits {request what} :
    what.Waits →
    Waits request (some what)

/-- No request waits on an answer that is settled. -/
lemma Reception.Settled.not_waits {what : Reception} {request : Request} (settled : what.Settled) :
    ¬request.Waits (some what) := by
  intro waits
  cases waits with
  | waits waits =>
    cases waits with
    | ended => cases settled with | failed notEnded _ => exact notEnded rfl
    | failed => cases settled with | failed _ notFailed => exact notFailed _ rfl

/-- The findings that a call uses up, and its answer. -/
inductive Serves : Request → List Reception → Option Reception → Prop where
  /-- The call answers with the next finding, which is no announcement if a picture is asked for. -/
  | given {request what} :
    what.Settled →
    (request = .picture → ∀ size, what ≠ .record (.announcement size)) →
    Serves request [what] (some what)
  /-- The call uses up nothing. -/
  | waits {request answer} :
    request.Waits answer →
    Serves request [] answer
  /-- A call for a picture takes in an announcement, whatever it ends with. -/
  | absorbed {size share answer} :
    Serves .picture share answer →
    Serves .picture (.record (.announcement size) :: share) answer

/-- A request is not answered with an interrupted read, for that is made again. -/
lemma Serves.loud {request share} {cause : IoError}
    (serves : Serves request share (some (.failed (.readFailed cause)))) :
    cause.isInterrupted = false := by
  generalize eq : some (Reception.failed (.readFailed cause)) = answer at serves
  induction serves with
  | given settled =>
    cases eq
    cases settled with | failed _ notFailed => exact absurd rfl (notFailed _)
  | waits waits =>
    cases waits with
    | finished => cases eq
    | waits waits =>
      cases eq
      cases waits with | failed loud => exact loud
  | absorbed _ ih => exact ih eq

namespace Receiver

open Wire

/-- What a call for a picture comes to, in the words of a call for a record. -/
def PictureReception.reception : PictureReception → Reception
  | .picture p => .record (.picture p)
  | .failed cause => .failed cause
  | .unaddressable => .unaddressable

def ask (r : Receiver) : Request → Option Reception × Receiver
  | .record => (some r.nextRecord.1, r.nextRecord.2)
  | .picture => (some r.nextPicture.1.reception, r.nextPicture.2)
  | .next => r.next?

/-- One call after the other: what each of them answers, and the receiver after it. -/
def trace (r : Receiver) : List Request → List (Option Reception × Receiver)
  | [] => []
  | request :: later => r.ask request :: (r.ask request).2.trace later

/-- A receiver that takes pictures of up to `limit` bytes has received some of the bytes of a stream.
Decoding found `used` in them, and the receiver holds what is left over. -/
def Holds (data : Bytes) (limit : Nat) (used : List Reception) (r : Receiver) : Prop :=
  r.limit = limit ∧ ∃ received, data = received ++ r.source.data ∧
    Finds limit received none used r.backlog.toList r.size

/-- The bytes received and not used up ask for more. -/
def AsksForMore (r : Receiver) : Prop := ∃ room, decode r.backlog.toList r.size r.limit = .more room

/-- The account of some calls: each uses up its share of the findings, leaves the receiver with what is
left over, and ends without a finding only if more bytes are asked for. `used` is what the calls before
them used up. -/
inductive Accounts (data : Bytes) (limit : Nat) :
    List Reception → List Request → List (List Reception) → List (Option Reception × Receiver) → Prop where
  | nil {used} :
    Accounts data limit used [] [] []
  | cons {used request share answer r requests shares trace} :
    Serves request share answer →
    Holds data limit (used ++ share) r →
    (request.Waits answer → r.AsksForMore) →
    Accounts data limit (used ++ share) requests shares trace →
    Accounts data limit used (request :: requests) (share :: shares) ((answer, r) :: trace)

variable {r r' : Receiver} {what : Reception} {data moved : Bytes} {limit : Nat}
  {used : List Reception}

/-- A receiver that has just started has read nothing and holds nothing. -/
lemma Holds.start (source : Source) (limit : Nat) :
    Holds source.data limit [] (Receiver.start source limit) :=
  ⟨rfl, [], rfl, .nil⟩

/-- What is found in the bytes held and those moved to them comes after what was found before. -/
lemma Holds.step {size rest} (holds : Holds data limit used r)
    (source : r.source.data = moved ++ r'.source.data)
    (finding : (decode (r.backlog.toList ++ moved) r.size r.limit).finding r.size =
      some (what, rest, size))
    (held : r'.backlog.toList = rest) (next : r'.size = size) (same : r'.limit = r.limit) :
    Holds data limit (used ++ [what]) r' := by
  obtain ⟨rfl, received, whole, finds⟩ := holds
  refine ⟨same, received ++ moved, by rw [whole, source, List.append_assoc], ?_⟩
  rw [held, next]
  exact (finds.append_bytes moved).append (.cons finding .nil)

/-- Bytes that a receiver moves from its source to its backlog change nothing of what it accounts for. -/
lemma Holds.move (holds : Holds data limit used r)
    (source : r.source.data = moved ++ r'.source.data)
    (held : r'.backlog.toList = r.backlog.toList ++ moved) (size : r'.size = r.size)
    (same : r'.limit = r.limit) : Holds data limit used r' := by
  obtain ⟨rfl, received, whole, finds⟩ := holds
  refine ⟨same, received ++ moved, by rw [whole, source, List.append_assoc], ?_⟩
  rw [held, size]
  exact finds.append_bytes moved

/-- One call uses up the bytes of a settled answer, or it waits with everything kept and asks for more. -/
lemma Holds.call (holds : Holds data limit used r) (small : limit + stampLength ≤ Bytes.maxWord)
    (call : r.nextRecord = (what, r')) :
    (what.Settled ∧ Holds data limit (used ++ [what]) r') ∨
      (what.Waits ∧ Holds data limit used r' ∧ r'.AsksForMore) := by
  obtain ⟨yields, same⟩ := r.nextRecord_yields
  rw [call] at yields same
  cases yields with
  | @record record _ moved source settled size =>
    exact .inl ⟨.record record, holds.step source (by rw [settled]; rfl) rfl size same⟩
  | malformed source settled size =>
    obtain ⟨notEnded, notFailed⟩ := cause_of_decode settled
    exact .inl ⟨.failed notEnded notFailed, holds.step source (by rw [settled]; rfl) rfl size same⟩
  | unaddressable source settled =>
    exact absurd settled (decode_ne_unaddressable (by rwa [holds.1]))
  | waits waits source held more size =>
    refine .inr ⟨waits, holds.move source held size same, ?_⟩
    rw [AsksForMore, size, same]
    exact ⟨_, more⟩

/-- A receiver reads a picture by reading records until one is a picture, or none can be read. -/
lemma nextPicture_eq (r : Receiver) :
    r.nextPicture =
      match r.nextRecord with
      | (.record (.picture p), r') => (.picture p, r')
      | (.record (.announcement _), r') => r'.nextPicture
      | (.failed cause, r') => (.failed cause, r')
      | (.unaddressable, r') => (.unaddressable, r') := by
  rw [nextPicture]
  split <;> simp_all

/-- What a call leaves behind: it has used up its share, and has none only if more is asked for. -/
def Served (data : Bytes) (limit : Nat) (used : List Reception) (request : Request)
    (answer : Option Reception) (r : Receiver) : Prop :=
  ∃ share, Serves request share answer ∧ Holds data limit (used ++ share) r ∧
    (request.Waits answer → r.AsksForMore)

/-- A call that answers as a call for a record does has used up as much. -/
lemma Holds.served {request : Request} (holds : Holds data limit used r)
    (small : limit + stampLength ≤ Bytes.maxWord) (call : r.nextRecord = (what, r'))
    (wanted : request = .picture → ∀ size, what ≠ .record (.announcement size)) :
    Served data limit used request (some what) r' := by
  rcases holds.call small call with ⟨settled, after⟩ | ⟨waits, after, more⟩
  · exact ⟨[what], .given settled wanted, after, fun waits => absurd waits settled.not_waits⟩
  · exact ⟨[], .waits (.waits waits), by rwa [List.append_nil], fun _ => more⟩

/-- Asking for a picture is served. -/
lemma Holds.picture_served (holds : Holds data limit used r)
    (small : limit + stampLength ≤ Bytes.maxWord) :
    Served data limit used .picture (some r.nextPicture.1.reception) r.nextPicture.2 := by
  induction r using nextPicture.induct generalizing used with
  | case1 r p r' found =>
    rw [nextPicture_eq, found]
    exact holds.served small found nofun
  | case2 r size r' found ih =>
    rw [nextPicture_eq, found]
    rcases holds.call small found with ⟨-, after⟩ | ⟨waits, -, -⟩
    · obtain ⟨share, serves, later, more⟩ := ih after
      exact ⟨_, .absorbed serves, by rwa [List.append_assoc] at later, more⟩
    · cases waits
  | case3 r cause r' found =>
    rw [nextPicture_eq, found]
    exact holds.served small found nofun
  | case4 r r' found =>
    rcases holds.call small found with ⟨settled, -⟩ | ⟨waits, -, -⟩
    · cases settled
    · cases waits

/-- Asking for the next record until the end is served. -/
lemma Holds.next_served (holds : Holds data limit used r)
    (small : limit + stampLength ≤ Bytes.maxWord) :
    Served data limit used .next r.next?.1 r.next?.2 := by
  cases call : r.nextRecord with
  | mk what r' =>
    by_cases ended : what = .failed .ended
    · -- only the end of the source is told in another way than by a call for a record
      subst ended
      rcases holds.call small call with ⟨settled, -⟩ | ⟨-, after, more⟩
      · cases settled with | failed notEnded _ => exact absurd rfl notEnded
      · rw [next?_of_ended call]
        refine ⟨[], .waits ?_, by rwa [List.append_nil], fun _ => more⟩
        split
        · exact .finished
        · exact .waits .ended
    · rw [next?_of_settled call ended]
      exact holds.served small call nofun

/-- Each call uses up its share of the findings, and none only if more bytes are asked for. -/
lemma Holds.ask_served (holds : Holds data limit used r) (small : limit + stampLength ≤ Bytes.maxWord)
    (request : Request) : Served data limit used request (r.ask request).1 (r.ask request).2 := by
  cases request with
  | record => exact holds.served small rfl nofun
  | picture => exact holds.picture_served small
  | next => exact holds.next_served small

/-- There is an account of every run that starts where some findings are used up. -/
lemma Holds.exists_accounts (holds : Holds data limit used r) (small : limit + stampLength ≤ Bytes.maxWord)
    (requests : List Request) : ∃ shares, Accounts data limit used requests shares (r.trace requests) := by
  induction requests generalizing r used with
  | nil => exact ⟨[], .nil⟩
  | cons request requests ih =>
    obtain ⟨share, serves, after, more⟩ := holds.ask_served small request
    obtain ⟨shares, later⟩ := ih after
    exact ⟨share :: shares, .cons serves after more later⟩

/-- The shares of an account, one after the other, are what decoding finds in the whole byte string. -/
lemma Accounts.finds {requests shares trace} (accounts : Accounts data limit used requests shares trace)
    (before : ∃ rest size, Finds limit data none used rest size) :
    ∃ rest size, Finds limit data none (used ++ shares.flatten) rest size := by
  induction accounts with
  | nil => simpa using before
  | cons _ holds _ _ ih =>
    obtain ⟨rfl, received, rfl, finds⟩ := holds
    rw [List.flatten_cons, ← List.append_assoc]
    exact ih ⟨_, _, finds.append_bytes _⟩

/-- No answer in an account is an interrupted read. -/
lemma Accounts.loud {requests shares trace} (accounts : Accounts data limit used requests shares trace)
    {cause : IoError} (mem : some (.failed (.readFailed cause)) ∈ trace.map Prod.fst) :
    cause.isInterrupted = false := by
  induction accounts with
  | nil => cases mem
  | cons serves _ _ _ ih =>
    rw [List.map_cons, List.mem_cons] at mem
    rcases mem with rfl | mem
    · exact serves.loud
    · exact ih mem

/-- Whatever a source does and in whatever order a receiver is asked, there is an account of the calls.
Their shares, one after the other, are a first part of what decoding finds in all bytes of the source.
Hence another source with the same bytes, asked in another order, yields the same findings, as far as
both are asked. No call is answered with an interruption. -/
theorem trace_accounts (source : Source) (limit : Nat) (small : limit + stampLength ≤ Bytes.maxWord)
    (requests : List Request) :
    ∃ shares, Accounts source.data limit [] requests shares ((start source limit).trace requests) ∧
      (∃ rest size, Finds limit source.data none shares.flatten rest size) ∧
      (∀ cause, some (.failed (.readFailed cause)) ∈
        ((start source limit).trace requests).map Prod.fst → cause.isInterrupted = false) ∧
      ∀ source' requests' shares', source'.data = source.data →
        Accounts source'.data limit [] requests' shares' ((start source' limit).trace requests') →
        shares.flatten <+: shares'.flatten ∨ shares'.flatten <+: shares.flatten := by
  obtain ⟨shares, accounts⟩ := (Holds.start source limit).exists_accounts small requests
  have finds := accounts.finds ⟨_, _, .nil⟩
  refine ⟨shares, accounts, finds, fun cause mem => accounts.loud mem, ?_⟩
  intro source' requests' shares' same accounts'
  obtain ⟨rest, size, one⟩ := finds
  obtain ⟨rest', size', other⟩ := accounts'.finds ⟨_, _, .nil⟩
  rw [same] at other
  exact one.comparable other

/-- A stream that is interrupted, ends early, fails and goes on, in pieces that end inside records. The end and the
failure are told, and the records around them are read in order. -/
theorem trace_accounts_broken_stream :
    let source : Source :=
      { deliveries :=
          [.bytes [0x59, 0x55, 0x56], .failure (.bare .interrupted), .nothing,
            .bytes [0x34, 1, 0, 0, 0, 1, 0, 0, 0, 255], .failure (.bare .other),
            .bytes [255, 255, 255, 255, 255, 255, 255, 7]] }
    let p : Picture := ⟨-1, ⟨1, 1⟩, [7]⟩
    let requests : List Request := [.picture, .next, .record, .next]
    standardLimit + stampLength ≤ Bytes.maxWord ∧
      ((start source standardLimit).trace requests).map Prod.fst =
        [some (.failed .ended), some (.record (.announcement ⟨1, 1⟩)),
          some (.failed (.readFailed (.bare .other))), some (.record (.picture p))] ∧
      ∃ shares, Accounts (encodeAll [.announcement ⟨1, 1⟩, .picture p]) standardLimit [] requests shares
        ((start source standardLimit).trace requests) := by
  intro source p requests
  let begun : Receiver :=
    { start source standardLimit with
      source := { deliveries := source.deliveries.drop 3, reads := 3 }
      backlog := Backlog.empty.push [0x59, 0x55, 0x56] }
  let announced : Receiver :=
    { begun with
      source := { deliveries := source.deliveries.drop 4, reads := 4 }
      backlog := .ofList [255]
      size := some ⟨1, 1⟩ }
  let failed : Receiver := { announced with source := { deliveries := source.deliveries.drop 5, reads := 5 } }
  let final : Receiver := { failed with source := { deliveries := [], reads := 6 }, backlog := .ofList [] }
  have first : (start source standardLimit).nextRecord = (.failed .ended, begun) :=
    (nextRecord_again rfl).trans ((nextRecord_again rfl).trans (nextRecord_done rfl))
  have second : begun.nextRecord = (.record (.announcement ⟨1, 1⟩), announced) :=
    (nextRecord_again rfl).trans (nextRecord_done rfl)
  have third : announced.nextRecord = (.failed (.readFailed (.bare .other)), failed) := nextRecord_done rfl
  have fourth : failed.nextRecord = (.record (.picture p), final) := (nextRecord_again rfl).trans (nextRecord_done rfl)
  obtain ⟨shares, accounts, -⟩ := trace_accounts source standardLimit (by decide) requests
  have whole : source.data = encodeAll [.announcement ⟨1, 1⟩, .picture p] := by decide
  rw [whole] at accounts
  refine ⟨by decide, ?_, shares, accounts⟩
  simp only [requests, trace, ask, nextPicture_eq, first, next?_of_settled second (by decide), third,
    next?_of_settled fourth (by decide)]
  rfl

end Receiver

end PlanarPipe
