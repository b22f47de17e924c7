import PlanarPipe.Proofs.Stream.Acknowledgement

/-!
# An encoder accounts for what was accepted

The history of a stream is the list of its calls that count, each with the frame and the part it was made
for (`dealings`). `Accounts` says what an encoder is to keep of a history: how many pushes were
acknowledged and how many bytes were accepted, which size was announced last, whether a push has failed,
and how long a buffer was needed. One push keeps it (`Encoder.push_accounts`), and so does a stream
(`Encoder.pushAll_accounts`). What an honest outlet took is told from the same books up to the count of
a short write (`Encoder.pushAll_taken`).
-/

namespace PlanarPipe

/-- A call that counts, with the frame and the part that it was made for. -/
structure Dealing where
  frame : Frame
  part : Part
  call : WriteCall

namespace Dealing

/-- How many bytes the part takes. -/
def length (d : Dealing) : Nat :=
  match d.part with
  | .announcement => 12
  | .stamp => 8
  | .payload => d.frame.size.frameBytes

/-- The part was accepted in full. -/
def accepted (d : Dealing) : Bool := d.call.tookAll d.length

/-- The size that was announced, if the call announced one. -/
def announced? (d : Dealing) : Option Size :=
  if d.part = .announcement ∧ d.accepted = true then some d.frame.size else none

/-- The bytes that were laid out for the call, if the frame is padded. -/
def laid? (d : Dealing) : Option Nat :=
  if d.part = .payload ∧ d.frame.isPacked = false then some d.frame.size.frameBytes else none

end Dealing

/-- The bytes of all parts that were accepted in full. -/
def acceptedBytes (history : List Dealing) : Nat :=
  ((history.filter Dealing.accepted).map Dealing.length).foldr (· + ·) 0

/-- The size that was announced last. -/
def lastAnnounced (history : List Dealing) : Option Size :=
  (history.filterMap Dealing.announced?).getLast?

/-- The longest of the frames that were laid out, or `held` if that is longer. -/
def longestLaid (held : Nat) (history : List Dealing) : Nat :=
  (history.filterMap Dealing.laid?).foldl max held

/-- The calls that count of one push, where `announced` was announced before it. -/
def dealingsOf (announced : Size) (f : Frame) (a : Attempt) : List Dealing :=
  (answered (f.parts announced) a.calls).map fun answer => ⟨f, answer.1, answer.2⟩

/-- The calls that count of some pushes, where `announced` was announced before them. -/
def dealings (announced : Size) : List (Frame × Attempt) → List Dealing
  | [] => []
  | (f, a) :: later =>
    let first := dealingsOf announced f a
    first ++ dealings ((lastAnnounced first).getD announced) later

namespace Attempt

/-- The attempt failed in writing. -/
def Breaks (a : Attempt) : Prop := ∃ part failure, a.failure = some (.transportFailed part failure)

def shortCount (a : Attempt) : Option Nat := a.failure.bind EncodeError.shortCount

end Attempt

/-- What `e'` keeps of a history that began at `e`. -/
structure Accounts (e : Encoder) (history : List Dealing) (attempts : List Attempt) (e' : Encoder) :
    Prop where
  timing : e'.timing = e.timing
  frames : e'.frames = e.frames + attempts.countP fun a => a.failure.isNone
  bytes : e'.bytes = e.bytes + acceptedBytes history
  announced : e'.announced = (lastAnnounced history).getD e.announced
  stopped : e'.stopped = true ↔ e.stopped = true ∨ ∃ a ∈ attempts, a.Breaks
  scratch : e'.scratch.size = longestLaid e.scratch.size history

/-- The planes of a frame are accepted just if nothing fails. -/
lemma Performs.count_payload {f : Frame} {announced : Size} {offer : Part → Offer}
    {bar : Part → Option WriteFailure} {o o' : Outlet} {calls : List WriteCall}
    {failure : Option EncodeError}
    (performs : Performs offer bar o (f.parts announced) calls failure o') :
    (accepted offer (f.parts announced) calls).count .payload = if failure.isNone then 1 else 0 := by
  have once := f.count_payload_parts announced
  cases failure with
  | none => rw [performs.accepted_all, once, Option.isNone_none, if_pos rfl]
  | some error =>
    obtain ⟨part, later, split⟩ := performs.accepted_front
    -- the planes come last, so they are among the parts that are not accepted
    have last : (f.parts announced).getLast? = some .payload := by
      rw [Frame.parts]
      split <;> rfl
    have left : 0 < (part :: later).count .payload := by
      rw [split, List.getLast?_append_cons] at last
      exact List.count_pos_iff.2 (List.mem_of_getLast? last)
    rw [split, List.count_append] at once
    rw [Option.isNone_some, if_neg Bool.false_ne_true]
    omega

section History

variable {f : Frame} {timing : Timing} {announced : Size} {a : Attempt}

/-- The part of a call takes as many bytes as are offered for it. -/
lemma Dealing.length_eq (held : f.Addressable) (timing : Timing) (part : Part) (call : WriteCall) :
    length ⟨f, part, call⟩ = (f.offer timing part).length := by
  cases part with
  | announcement => exact (congrArg (· + 0) (Wire.length_encodeSize f.size)).symm
  | stamp => exact (congrArg (· + 0) (Wire.length_encodeStamp (timing.stamp f.pts))).symm
  | payload => exact (Frame.length_offer_payload held.exact timing).symm

/-- The bytes that were accepted in two histories add up. -/
lemma acceptedBytes_append (history later : List Dealing) :
    acceptedBytes (history ++ later) = acceptedBytes history + acceptedBytes later := by
  induction history with
  | nil => exact (Nat.zero_add _).symm
  | cons d history ih =>
    simp only [acceptedBytes, List.cons_append, List.filter_cons] at ih ⊢
    split
    · simp only [List.map_cons, List.foldr_cons]
      omega
    · exact ih

/-- What was announced last in a history counts over what was announced before it. -/
lemma lastAnnounced_append (history later : List Dealing) :
    lastAnnounced (history ++ later) = (lastAnnounced later).or (lastAnnounced history) := by
  rw [lastAnnounced, List.filterMap_append, List.getLast?_append]
  rfl

/-- One call announces its own size, if it announces any. -/
lemma lastAnnounced_singleton (d : Dealing) : lastAnnounced [d] = d.announced? := by
  rw [lastAnnounced, List.filterMap_cons]
  cases d.announced? <;> rfl

/-- One call needs a buffer for its own frame, if it needs any. -/
lemma longestLaid_singleton (held : Nat) (d : Dealing) :
    longestLaid held [d] = d.laid?.elim held (max held) := by
  rw [longestLaid, List.filterMap_cons]
  cases d.laid? <;> rfl

/-- The longest frame that was laid out is found history by history. -/
lemma longestLaid_append (held : Nat) (history later : List Dealing) :
    longestLaid held (history ++ later) = longestLaid (longestLaid held history) later := by
  rw [longestLaid, List.filterMap_append, List.foldl_append]
  rfl

/-- The bytes accepted in a push are those of the parts accepted in it. -/
lemma acceptedBytes_dealingsOf (held : f.Addressable) (timing : Timing) :
    acceptedBytes (dealingsOf announced f a) =
      octets (f.offer timing) (accepted (f.offer timing) (f.parts announced) a.calls) := by
  simp only [acceptedBytes, dealingsOf, octets, accepted, List.filter_map, List.map_map,
    Function.comp_def, Dealing.accepted, Dealing.length_eq held timing]

/-- One push announces no size but that of its frame. -/
lemma lastAnnounced_dealingsOf (held : f.Addressable) (timing : Timing) :
    lastAnnounced (dealingsOf announced f a) =
      if .announcement ∈ accepted (f.offer timing) (f.parts announced) a.calls then some f.size
      else none := by
  rw [dealingsOf, accepted]
  generalize answered (f.parts announced) a.calls = answers
  induction answers with
  | nil => rfl
  | cons answer answers ih =>
    obtain ⟨part, call⟩ := answer
    have first : lastAnnounced [⟨f, part, call⟩] =
        if part = .announcement ∧ call.tookAll (f.offer timing part).length = true then some f.size
        else none := by
      rw [lastAnnounced_singleton, Dealing.announced?, Dealing.accepted, Dealing.length_eq held timing]
    rw [List.map_cons, ← List.singleton_append, lastAnnounced_append, ih, first]
    cases all : call.tookAll (f.offer timing part).length with
    | false =>
      simp only [List.filter_cons, all, Bool.false_eq_true, and_false, if_false, Option.or_none]
    | true =>
      simp only [List.filter_cons, all, and_true, if_true, List.map_cons, List.mem_cons]
      by_cases new : part = .announcement
      · simp only [new, true_or, if_true]
        split <;> rfl
      · have other : ¬.announcement = part := fun same => new same.symm
        simp only [new, other, false_or, if_false, Option.or_none]

/-- A push lays out its frame if the planes are tried and the frame is padded. -/
lemma longestLaid_dealingsOf (held : Nat) :
    longestLaid held (dealingsOf announced f a) =
      if .payload ∈ tried (f.parts announced) a.calls ∧ f.isPacked = false then
        max held f.size.frameBytes
      else held := by
  rw [dealingsOf, tried]
  generalize answered (f.parts announced) a.calls = answers
  induction answers generalizing held with
  | nil => rfl
  | cons answer answers ih =>
    obtain ⟨part, call⟩ := answer
    rw [List.map_cons, ← List.singleton_append, longestLaid_append, ih, longestLaid_singleton,
      Dealing.laid?]
    by_cases padded : f.isPacked = false
    · simp only [padded, and_true, List.map_cons, List.mem_cons]
      by_cases planes : part = .payload
      · simp [planes]
      · have other : ¬.payload = part := fun same => planes same.symm
        simp only [planes, other, false_or, if_false, Option.elim_none]
    · simp only [padded, Bool.true_eq_false, and_false, if_false, Option.elim_none]

end History

/-- A push with a short write failed in writing. -/
lemma Attempt.breaks_of_shortCount {a : Attempt} {count : Nat} (short : a.shortCount = some count) :
    a.Breaks := by
  obtain ⟨error, failed, counted⟩ := Option.bind_eq_some_iff.1 short
  cases error with
  | transportFailed part failure => exact ⟨part, failure, failed⟩
  | stopped | notOpen => cases counted

namespace Accounts

variable {e e' e'' : Encoder} {history later : List Dealing} {attempts attempts' : List Attempt}

/-- Where nothing happened an encoder keeps what it kept. -/
lemma nothing (e : Encoder) : Accounts e [] [] e where
  timing := rfl
  frames := rfl
  bytes := rfl
  announced := rfl
  stopped := by simp
  scratch := rfl

/-- What comes of a history is added to what came of the history before. -/
lemma trans (first : Accounts e history attempts e') (second : Accounts e' later attempts' e'') :
    Accounts e (history ++ later) (attempts ++ attempts') e'' where
  timing := second.timing.trans first.timing
  frames := by
    rw [second.frames, first.frames, List.countP_append]
    omega
  bytes := by
    rw [second.bytes, first.bytes, acceptedBytes_append]
    omega
  announced := by
    rw [second.announced, first.announced, lastAnnounced_append]
    cases lastAnnounced later <;> rfl
  stopped := by
    rw [second.stopped, first.stopped, or_assoc]
    simp only [List.mem_append, or_and_right, exists_or]
  scratch := by
    rw [second.scratch, first.scratch, longestLaid_append]

end Accounts

namespace Encoder

variable {e : Encoder} {f : Frame} {frames : List Frame}

/-- What an encoder has become after some pushes. -/
def after (e : Encoder) (attempts : List Attempt) : Encoder :=
  (attempts.getLast?.map Attempt.encoder).getD e

/-- After some pushes an encoder is what it is after the ones that follow the first. -/
lemma after_cons (e : Encoder) (a : Attempt) (attempts : List Attempt) :
    e.after (a :: attempts) = a.encoder.after attempts := by
  cases attempts with
  | nil => rfl
  | cons b attempts =>
    rw [after, List.getLast?_cons_cons]
    rfl

/-- One push accounts for its calls. -/
lemma push_accounts (e : Encoder) (room : Nat → Bool) (outlet : Outlet) (held : f.Addressable) :
    let a := e.pushWithin room f outlet
    Accounts e (dealingsOf e.announced f a) [a] a.encoder := by
  cases going : e.stopped with
  -- a stopped encoder makes no call, so there is nothing to account for
  | true =>
    simp only [pushWithin, going, if_true]
    have quiet : dealingsOf e.announced f { encoder := e, outlet, failure := some .stopped } = [] := by
      rw [dealingsOf, answered, List.filter_nil, List.zip_nil_right]
      rfl
    rw [quiet]
    exact ⟨rfl, rfl, rfl, rfl, by simp [going], rfl⟩
  | false =>
    obtain ⟨performs, books, stopped⟩ := push_performs room outlet held.exact going
    generalize e.pushWithin room f outlet = a at performs books stopped ⊢
    refine ⟨books.timing, ?_, ?_, ?_, ?_, ?_⟩
    · rw [List.countP_singleton]
      exact books.frames.trans (congrArg (e.frames + ·) performs.count_payload)
    · rw [acceptedBytes_dealingsOf held e.timing]
      exact books.bytes
    · rw [lastAnnounced_dealingsOf held e.timing, apply_ite (Option.getD · e.announced)]
      exact books.announced
    · rw [stopped, going]
      obtain alive | ⟨part, cause, failed⟩ := performs.failure_cases
      · simp [Attempt.Breaks, alive]
      · simp [Attempt.Breaks, failed]
    · rw [longestLaid_dealingsOf]
      exact books.scratch

/-- A push does not make the buffer shorter, and changes nothing if the encoder has stopped before. -/
lemma push_keeps (e : Encoder) (room : Nat → Bool) (outlet : Outlet) (held : f.Addressable) :
    let a := e.pushWithin room f outlet
    e.scratch.size ≤ a.encoder.scratch.size ∧ (a.failure = some .stopped → a.encoder = e) := by
  refine ⟨?_, fun failed => ?_⟩
  · have scratch := (e.push_accounts room outlet held).scratch
    rw [longestLaid_dealingsOf] at scratch
    rw [scratch]
    split
    · exact Nat.le_max_left ..
    · exact Nat.le_refl _
  · cases going : e.stopped with
    | true => simp only [pushWithin, going, if_true]
    | false =>
      obtain alive | ⟨part, cause, broken⟩ :=
        (push_performs room outlet held.exact going).1.failure_cases
      · rw [alive] at failed
        cases failed
      · rw [broken] at failed
        cases failed

/-- Every stream keeps what comes of its calls. -/
lemma pushAll_accounts (e : Encoder) (room : Nat → Bool) (outlet : Outlet)
    (held : ∀ f ∈ frames, f.Addressable) :
    let attempts := e.pushAll room outlet frames
    Accounts e (dealings e.announced (frames.zip attempts)) attempts (e.after attempts) := by
  induction frames generalizing e outlet with
  | nil => exact .nothing e
  | cons f frames ih =>
    obtain ⟨held, later⟩ := List.forall_mem_cons.1 held
    have first := e.push_accounts room outlet held
    rw [pushAll]
    simp only [List.zip_cons_cons, dealings, after_cons]
    generalize e.pushWithin room f outlet = a at first ⊢
    -- the history goes on with the size that the encoder keeps
    have rest := ih a.encoder a.outlet later
    simp only [first.announced] at rest
    exact first.trans rest

/-- An honest outlet took what a push has counted, and the part of a record that it took last. -/
lemma push_taken (e : Encoder) (room : Nat → Bool) (outlet : Outlet) (held : f.Addressable)
    (honest : (e.pushWithin room f outlet).Honest) :
    let a := e.pushWithin room f outlet
    a.taken.length + e.bytes = a.encoder.bytes + a.shortCount.getD 0 := by
  cases going : e.stopped with
  | true =>
    simp only [pushWithin, going, if_true]
    exact Nat.zero_add e.bytes
  | false =>
    obtain ⟨performs, books, -⟩ := push_performs room outlet held.exact going
    generalize e.pushWithin room f outlet = a at honest performs books ⊢
    have bytes : a.encoder.bytes = _ := books.bytes
    have taken : a.taken.length = _ :=
      performs.length_taken honest fun part failure barred =>
        (Frame.noRoom_of_bar barred).imp fun _ why => why.1
    show a.taken.length + e.bytes = _
    rw [taken, bytes, Attempt.shortCount]
    omega

/-- After a stream an honest outlet took what was counted, and what it took in a short write. -/
lemma pushAll_taken (e : Encoder) (room : Nat → Bool) (outlet : Outlet)
    (held : ∀ f ∈ frames, f.Addressable) (honest : ∀ a ∈ e.pushAll room outlet frames, a.Honest) :
    let attempts := e.pushAll room outlet frames
    (sent attempts).length + e.bytes =
      (e.after attempts).bytes + (attempts.findSome? Attempt.shortCount).getD 0 := by
  induction frames generalizing e outlet with
  | nil => exact Nat.zero_add e.bytes
  | cons f frames ih =>
    obtain ⟨held, later⟩ := List.forall_mem_cons.1 held
    rw [pushAll] at honest ⊢
    obtain ⟨fair, honest⟩ := List.forall_mem_cons.1 honest
    have first := e.push_taken room outlet held fair
    have kept := (e.push_accounts room outlet held).stopped
    generalize e.pushWithin room f outlet = a at first kept honest ⊢
    have rest := ih a.encoder a.outlet later honest
    simp only at first rest ⊢
    rw [sent_cons, List.length_append, after_cons, List.findSome?_cons]
    cases short : a.shortCount with
    | none =>
      rw [short] at first
      simp only [Option.getD_none] at first ⊢
      omega
    | some count =>
      -- nothing is written after a short write
      have breaks : a.Breaks := Attempt.breaks_of_shortCount short
      have stopped : a.encoder.stopped = true := kept.2 (.inr ⟨a, List.mem_singleton_self a, breaks⟩)
      have silent := pushAll_stopped room a.outlet frames stopped
      have none : (a.encoder.pushAll room a.outlet frames).findSome? Attempt.shortCount = none :=
        List.findSome?_eq_none_iff.2 fun b mem => by
          rw [Attempt.shortCount, (silent b mem).1]
          rfl
      rw [none] at rest
      rw [short] at first
      simp only [Option.getD_none, Option.getD_some] at first rest ⊢
      omega

end Encoder

open Encoder

/-- After every push of a session, whatever its outlet does, the encoder has counted the pushes that were
acknowledged and the bytes of all parts that were accepted in full, the last of the accepted
announcements is the one it keeps, and it has stopped just if a push has failed in writing. Its buffer is
as long as the longest padded frame whose planes were written. The next push does not make the buffer
shorter, and changes nothing if the encoder has stopped. An honest outlet took as many bytes as were
counted, and what it took in the short write that ended the session, if one did. -/
theorem accounts_for_what_was_accepted (timing : Timing) (room : Nat → Bool) (outlet : Outlet)
    (frames : List Frame) (held : ∀ f ∈ frames, f.Addressable) :
    let attempts := session timing room outlet frames
    let history := dealings .unset (frames.zip attempts)
    let e := (start timing).after attempts
    attempts.length = frames.length ∧
      e.frames = attempts.countP (fun a => a.failure.isNone) ∧
      e.bytes = acceptedBytes history ∧
      e.announced = (lastAnnounced history).getD .unset ∧
      (e.stopped = true ↔ ∃ a ∈ attempts, a.Breaks) ∧
      e.scratch.size = longestLaid 0 history ∧
      (∀ room f outlet, f.Addressable →
        let a := e.pushWithin room f outlet
        e.scratch.size ≤ a.encoder.scratch.size ∧
          (a.failure = some .stopped → a.encoder = e)) ∧
      ((∀ a ∈ attempts, a.Honest) →
        (sent attempts).length = e.bytes + (attempts.findSome? Attempt.shortCount).getD 0) := by
  intro attempts history e
  have accounts : Accounts (start timing) history attempts e :=
    (start timing).pushAll_accounts room outlet held
  refine ⟨length_pushAll .., ?_, ?_, accounts.announced, ?_, accounts.scratch,
    fun room f outlet held => e.push_keeps room outlet held, fun honest => ?_⟩
  · exact accounts.frames.trans (Nat.zero_add _)
  · exact accounts.bytes.trans (Nat.zero_add _)
  · exact accounts.stopped.trans (or_iff_right nofun)
  · exact (start timing).pushAll_taken room outlet held honest

/-- Of three frames the first is acknowledged, and of the second five bytes of its time stamp go out. -/
theorem accounts_for_what_was_accepted_short :
    let attempts := session Receiver.ntscTiming plenty Receiver.shortOutlet
      [Receiver.paddedFrame, Receiver.flatFrame, Receiver.flatFrame]
    let e := (start Receiver.ntscTiming).after attempts
    e.frames = 1 ∧ e.bytes = 38 ∧ e.announced = ⟨3, 1⟩ ∧ e.stopped = true ∧ e.scratch.size = 6 ∧
      (sent attempts).length = 43 := by
  intro attempts e
  obtain ⟨-, frames, bytes, announced, stopped, scratch, -, taken⟩ :=
    accounts_for_what_was_accepted Receiver.ntscTiming plenty Receiver.shortOutlet
      [Receiver.paddedFrame, Receiver.flatFrame, Receiver.flatFrame] (by decide)
  have honest : ∀ a ∈ attempts, a.Honest := by decide
  have count : e.bytes = 38 := bytes.trans (by decide)
  refine ⟨frames.trans (by decide), count, announced.trans (by decide), ?_, scratch.trans (by decide), ?_⟩
  · exact stopped.2 ⟨attempts[1], List.getElem_mem .., .stamp, .short 5 8, by decide⟩
  · rw [taken honest, count]
    decide

end PlanarPipe
