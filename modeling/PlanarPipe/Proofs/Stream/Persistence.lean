import PlanarPipe.Proofs.Stream.Interleaving

/-!
# Errors that last

A receiver that meets bytes which are no record has an answer for them. Where the bytes stay where they
are, it is stuck: the answer is the same for ever, and the source is left alone (`Receiver.Stuck`). That
is so for a picture whose size is unknown or too large. An announcement of a size without pixels is
refused and used up all the same, so that the next call reads on behind it with the size that was
announced before. `Receiver.ask_failed` says that a call which ends with an error about the bytes does
one or the other. Main statement: `Receiver.failure_lasts_iff`.
-/

namespace PlanarPipe

namespace Receiver

open Wire

variable {r r' : Receiver} {cause : FrameError} {request : Request} {size : Size}

/-- The bytes held are no record, and an answer to them leaves them as they are. -/
structure Stuck (r : Receiver) (cause : FrameError) : Prop where
  malformed : decode r.backlog.toList r.size r.limit = .malformed cause r.backlog.toList
  joined : r.backlog = .ofList r.backlog.toList

/-- An error about the bytes is told by an iterator just as by a call for a record. -/
lemma next?_failed (settled : (Reception.failed cause).Settled) :
    r.next? = (some (.failed cause), r') ↔ r.nextRecord = (.failed cause, r') := by
  have going : Reception.failed cause ≠ .failed .ended := by
    rintro ⟨⟩
    cases settled with
    | failed notEnded _ => exact notEnded rfl
  constructor
  · intro call
    rw [next?] at call
    split at call
    case h_1 =>
      split at call
      · cases call
      · cases call
        exact absurd rfl going
    case h_2 eq =>
      cases call
      exact eq
  · exact fun call => next?_of_settled call going

/-- Every call on a receiver that is stuck is answered alike, and changes nothing. -/
lemma Stuck.ask (stuck : r.Stuck cause) (request : Request) :
    r.ask request = (some (.failed cause), r) := by
  obtain ⟨notEnded, notFailed⟩ := cause_of_decode stuck.malformed
  have call : r.nextRecord = (.failed cause, r) := by
    rw [nextRecord_eq, advance_eq, stuck.malformed]
    change (Reception.failed cause, { r with backlog := .ofList r.backlog.toList }) = _
    rw [← stuck.joined]
  cases request with
  | record => rw [Receiver.ask, call]
  | picture =>
    rw [Receiver.ask, nextPicture_eq, call]
    rfl
  | next => exact (next?_failed (.failed notEnded notFailed)).2 call

/-- All calls on a receiver that is stuck are answered alike. -/
lemma Stuck.trace (stuck : r.Stuck cause) (requests : List Request) :
    r.trace requests = requests.map fun _ => (some (.failed cause), r) := by
  induction requests with
  | nil => rfl
  | cons request requests ih => rw [Receiver.trace, stuck.ask, ih, List.map_cons]

/-- What a source has to hand out is of no account to a receiver that is stuck. -/
lemma Stuck.over (stuck : r.Stuck cause) (source : Source) : Stuck { r with source } cause :=
  ⟨stuck.malformed, stuck.joined⟩

/-- After an error about the bytes those that are left are held in one piece. -/
lemma joined_of_failed (settled : (Reception.failed cause).Settled)
    (call : r.nextRecord = (.failed cause, r')) : r'.backlog = .ofList r'.backlog.toList := by
  induction r using nextRecord.induct with
  | case1 r next again ih =>
    rw [nextRecord_again again] at call
    exact ih call
  | case2 r what next done =>
    rw [nextRecord_done done] at call
    cases call
    rw [advance_eq] at done
    split at done
    case h_1 =>
      have waits : Request.record.Waits (some (.failed cause)) := .waits (readMore_done done).1
      exact absurd waits settled.not_waits
    case h_3 =>
      cases done
      exact congrArg Backlog.ofList (Backlog.toList_ofList _).symm
    all_goals cases done

/-- How a call that ends with an error about the bytes leaves the receiver. -/
inductive Fails (r : Receiver) : FrameError → Receiver → Prop where
  /-- An announcement is refused and used up, after others that were taken in. -/
  | refused {size : Size} {sizes : List Size} {r' : Receiver} :
    r.remaining = encodeAll (sizes.map .announcement) ++ (encodeSize size ++ r'.remaining) →
    r'.size = sizeAfterAll r.size (sizes.map .announcement) →
    Fails r (.emptySize size) r'
  | stuck {cause : FrameError} {r' : Receiver} :
    (∀ size, cause ≠ .emptySize size) →
    r'.Stuck cause →
    Fails r cause r'

/-- A call for a record that ends with an error about the bytes has used an announcement up, or is stuck. -/
lemma nextRecord_failed (settled : (Reception.failed cause).Settled)
    (call : r.nextRecord = (.failed cause, r')) : r.Fails cause r' := by
  obtain ⟨yields, limit⟩ := r.nextRecord_yields
  have joined := joined_of_failed settled call
  rw [call] at yields limit
  cases yields with
  | waits waits =>
    have waits : Request.record.Waits (some (.failed cause)) := .waits waits
    exact absurd waits settled.not_waits
  | @malformed _ _ moved source decoded size =>
    rcases of_decode_malformed decoded with ⟨empty, rfl, whole⟩ | ⟨other, same⟩
    · have front : r.remaining = encodeSize empty ++ r'.remaining := by
        rw [remaining, remaining, source, ← List.append_assoc, whole, List.append_assoc]
      exact @Fails.refused _ empty [] _ front size
    · rw [← same, ← size, ← limit] at decoded
      exact .stuck other ⟨decoded, joined⟩

/-- An announcement that is read is used up, and its size holds from then on. -/
lemma nextRecord_announced (call : r.nextRecord = (.record (.announcement size), r')) :
    r.remaining = encodeSize size ++ r'.remaining ∧ r'.size = some size := by
  obtain ⟨yields, -⟩ := r.nextRecord_yields
  rw [call] at yields
  cases yields with
  | waits waits => cases waits
  | @record _ _ moved source decoded next =>
    obtain ⟨whole, -⟩ := of_decode_record decoded
    refine ⟨?_, next⟩
    rw [remaining, remaining, source, ← List.append_assoc, whole, List.append_assoc, Record.encode]

/-- An announcement that is taken in first is one more that was used up. -/
lemma Fails.absorb {next : Receiver} (taken : r.remaining = encodeSize size ++ next.remaining)
    (announced : next.size = some size) (fails : next.Fails cause r') : r.Fails cause r' := by
  cases fails with
  | stuck other stuck => exact .stuck other stuck
  | @refused empty sizes _ whole after =>
    refine @Fails.refused _ empty (size :: sizes) _ ?_ ?_
    · rw [taken, whole, List.map_cons, encodeAll_cons, List.append_assoc, Record.encode]
    · rw [after, announced]
      rfl

/-- A call for a picture that ends so has used announcements up, or is stuck. -/
lemma nextPicture_failed (settled : (Reception.failed cause).Settled)
    (call : r.nextPicture = (.failed cause, r')) : r.Fails cause r' := by
  -- along the announcements that are taken in before the one that is refused
  induction r using nextPicture.induct with
  | case1 r p next found =>
    rw [nextPicture_eq, found] at call
    cases call
  | case2 r size next found ih =>
    rw [nextPicture_eq, found] at call
    obtain ⟨taken, announced⟩ := nextRecord_announced found
    exact (ih call).absorb taken announced
  | case3 r cause next found =>
    rw [nextPicture_eq, found] at call
    cases call
    exact nextRecord_failed settled found
  | case4 r next found =>
    rw [nextPicture_eq, found] at call
    cases call

/-- Each way of asking fails as a call for a record does. -/
lemma ask_failed (settled : (Reception.failed cause).Settled)
    (call : r.ask request = (some (.failed cause), r')) : r.Fails cause r' := by
  cases request with
  | record =>
    obtain ⟨answer, rfl⟩ := Prod.mk.inj call
    exact nextRecord_failed settled (Prod.ext (Option.some.inj answer) rfl)
  | next => exact nextRecord_failed settled ((next?_failed settled).1 call)
  | picture =>
    obtain ⟨answer, rfl⟩ := Prod.mk.inj call
    refine nextPicture_failed settled (Prod.ext ?_ rfl)
    cases told : r.nextPicture.1 <;> rw [told] at answer <;> cases answer
    rfl

/-- Announcements are not refused for ever: each of them takes some of the bytes that remain. -/
lemma length_refused {requests : List Request}
    (all : ∀ step ∈ r.trace requests, step.1 = some (.failed (.emptySize size))) :
    requests.length ≤ r.remaining.length := by
  induction requests generalizing r with
  | nil => exact Nat.zero_le _
  | cons request requests ih =>
    obtain ⟨first, later⟩ := List.forall_mem_cons.1 all
    have settled : (Reception.failed (.emptySize size)).Settled := .failed nofun nofun
    have fails : r.Fails (.emptySize size) (r.ask request).2 := ask_failed settled (Prod.ext first rfl)
    cases fails with
    | stuck other => exact absurd rfl (other size)
    | refused whole =>
      have rest := ih later
      rw [whole, List.length_cons]
      simp only [List.length_append, length_encodeSize, announcementLength]
      omega

/-- A call that ends with an error about the bytes is answered alike for ever, without another read and
whatever the source has still to hand out, unless the error is about an announcement of a size without
pixels. Such an announcement is used up, and what follows it is read with the size that held before. This
is the only error after which the decoder does not leave the bytes as they were. -/
theorem failure_lasts_iff {r r' : Receiver} {request : Request} {cause : FrameError}
    (settled : (Reception.failed cause).Settled)
    (call : r.ask request = (some (.failed cause), r')) :
    (∀ source, (∀ requests, ∀ step ∈ Receiver.trace { r' with source } requests,
        step = (some (.failed cause), { r' with source })) ↔ ∀ size, cause ≠ .emptySize size) ∧
    (∀ size, cause = .emptySize size → ∃ sizes : List Size,
      r.remaining = encodeAll (sizes.map .announcement) ++ (encodeSize size ++ r'.remaining) ∧
        r'.size = sizeAfterAll r.size (sizes.map .announcement)) ∧
    ∀ bytes current limit, (decode bytes current limit).left bytes = bytes ↔
      (∀ record rest, decode bytes current limit ≠ .record record rest) ∧
        ∀ size rest, decode bytes current limit ≠ .malformed (.emptySize size) rest := by
  have fails := ask_failed settled call
  refine ⟨fun source => ⟨fun alike size => ?_, fun other requests step mem => ?_⟩, ?_, left_decode_iff⟩
  · -- one call more than there are bytes left cannot be answered by refusals alone
    rintro rfl
    let next : Receiver := { r' with source }
    have refused : ∀ step ∈ next.trace (.replicate (next.remaining.length + 1) .record),
        step.1 = some (.failed (.emptySize size)) := by
      intro step mem
      rw [alike _ step mem]
    have few := length_refused refused
    rw [List.length_replicate] at few
    exact absurd few (Nat.not_succ_le_self _)
  · cases fails with
    | refused => exact absurd rfl (other _)
    | stuck _ stuck =>
      rw [(stuck.over source).trace, List.mem_map] at mem
      obtain ⟨-, -, rfl⟩ := mem
      rfl
  · rintro size rfl
    cases fails with
    | stuck other => exact absurd rfl (other size)
    | refused whole after => exact ⟨_, whole, after⟩

/-- Four bytes of a picture that takes six where five are allowed. -/
theorem failure_lasts_iff_oversize :
    let r : Receiver := ⟨.ofBytes [0, 0, 0, 0], .empty, some ⟨2, 2⟩, 5⟩
    let r' : Receiver := ⟨⟨[], 1⟩, .ofList [0, 0, 0, 0], some ⟨2, 2⟩, 5⟩
    r.ask .record = (some (.failed (.oversize 6 5)), r') ∧
      ∀ source requests, ∀ step ∈ Receiver.trace { r' with source } requests,
        step = (some (.failed (.oversize 6 5)), { r' with source }) := by
  intro r r'
  have answer : r.nextRecord = (.failed (.oversize 6 5), r') :=
    (nextRecord_again rfl).trans (nextRecord_done rfl)
  have call : r.ask .record = (some (.failed (.oversize 6 5)), r') := by rw [Receiver.ask, answer]
  have settled : (Reception.failed (.oversize 6 5)).Settled := .failed (by decide) fun _ other => by cases other
  exact ⟨call, fun source => ((failure_lasts_iff settled call).1 source).2 fun _ other => by cases other⟩

/-- The announcement of a size without pixels, and a picture of one pixel. -/
def forgottenBytes : Bytes := encodeSize ⟨0, 16⟩ ++ (Record.picture ⟨7, ⟨1, 1⟩, [9]⟩).encode

/-- Pictures of no width are announced after pictures of one pixel. The announcement is refused once, and
then the next picture is taken for one of one pixel. -/
theorem failure_forgotten :
    let r : Receiver := ⟨.ofBytes forgottenBytes, .empty, some ⟨1, 1⟩, standardLimit⟩
    standardLimit + stampLength ≤ Bytes.maxWord ∧
      (decode forgottenBytes (some ⟨1, 1⟩) standardLimit).left forgottenBytes ≠ forgottenBytes ∧
      (r.trace [.record, .record]).map Prod.fst =
        [some (.failed (.emptySize ⟨0, 16⟩)), some (.record (.picture ⟨7, ⟨1, 1⟩, [9]⟩))] := by
  refine ⟨by decide, by decide, ?_⟩
  let later := (Record.picture ⟨7, ⟨1, 1⟩, [9]⟩).encode
  have refused : nextRecord ⟨.ofBytes forgottenBytes, .empty, some ⟨1, 1⟩, standardLimit⟩ =
      (.failed (.emptySize ⟨0, 16⟩), ⟨⟨[], 1⟩, .ofList later, some ⟨1, 1⟩, standardLimit⟩) :=
    (nextRecord_again rfl).trans (nextRecord_done rfl)
  have taken : nextRecord ⟨⟨[], 1⟩, .ofList later, some ⟨1, 1⟩, standardLimit⟩ =
      (.record (.picture ⟨7, ⟨1, 1⟩, [9]⟩), ⟨⟨[], 1⟩, .ofList [], some ⟨1, 1⟩, standardLimit⟩) :=
    nextRecord_done rfl
  rw [trace, Receiver.ask, refused, trace, Receiver.ask, taken]
  rfl

end Receiver

end PlanarPipe
