import Mathlib.Tactic.Lemma
import PlanarPipe.Proofs.Video.Extent
import PlanarPipe.Stream.Encoder

/-!
# Write calls, part by part

A frame is written in parts: an announcement if its size is new, a time stamp, and its planes. A part
is handed over with one call, which is made again for as long as the outlet is interrupted
(`Outlet.Asks`). `Performs` lists the calls that are made for some parts and how they end: each part is
taken whole, or one of them is not and no call is made for those after it. What goes out with the calls
is told for two kinds of outlets: one that never says it took more than it was offered
(`Performs.sends`), and one that takes everything (`Performs.generous`).
-/

namespace PlanarPipe

/-- The outlet does not say that it took more than it was offered. -/
def WriteCall.Honest (c : WriteCall) : Prop :=
  match c.answer with
  | .ok count => count ≤ c.offer.bytes.length
  | .error _ => True

instance (c : WriteCall) : Decidable c.Honest :=
  match c with
  | ⟨offer, .ok count⟩ => inferInstanceAs (Decidable (count ≤ offer.bytes.length))
  | ⟨_, .error _⟩ => inferInstanceAs (Decidable True)

/-- The call was interrupted, and is to be made again. -/
def WriteCall.interrupted (c : WriteCall) : Bool :=
  match c.answer with
  | .ok _ => false
  | .error cause => cause.isInterrupted

namespace Outlet

/-- The answer to a call that offers so many bytes, and what is left of the outlet. -/
def answer (o : Outlet) (offered : Nat) : Except IoError Nat × Outlet :=
  match o.replies with
  | [] => (.ok offered, o)
  | reply :: later => (reply.answer offered, { o with replies := later })

/-- The same call is made until it is not interrupted. The call that counts is the last one. -/
inductive Asks (seen : Offer) : Outlet → List WriteCall → WriteCall → Outlet → Prop where
  | settled {o o' answer} :
    o.answer seen.length = (answer, o') →
    WriteCall.interrupted ⟨seen, answer⟩ = false →
    Asks seen o [] ⟨seen, answer⟩ o'
  | again {o o' o'' answer repeated last} :
    o.answer seen.length = (answer, o') →
    WriteCall.interrupted ⟨seen, answer⟩ = true →
    Asks seen o' repeated last o'' →
    Asks seen o (⟨seen, answer⟩ :: repeated) last o''

/-- The outlet takes everything, several byte strings in one call too. -/
structure Generous (o : Outlet) : Prop where
  gathers : o.gathers = true
  replies : ∀ reply ∈ o.replies, reply = .all

end Outlet

namespace Frame

/-- The parts of a frame that are written where `announced` was announced last. -/
def parts (announced : Size) (f : Frame) : List Part :=
  (if f.size = announced then [] else [.announcement]) ++ [.stamp, .payload]

/-- What is offered of a frame for each part: the planes in three slices if they are packed, and else
put together. -/
def offer (timing : Timing) (f : Frame) : Part → Offer
  | .announcement => .single (Wire.encodeSize f.size)
  | .stamp => .single (Wire.encodeStamp (timing.stamp f.pts))
  | .payload =>
    if f.isPacked then .gather (Channel.all.map fun c => (f.rows c).flatten) else .single f.pixels

/-- What keeps a part from being offered at all: the planes of a padded frame may need a longer buffer
than the one of `held` bytes, and `room` tells which buffers can be had. -/
def bar (room : Nat → Bool) (held : Nat) (f : Frame) : Part → Option WriteFailure
  | .announcement | .stamp => none
  | .payload =>
    if f.isPacked = false ∧ held < f.size.frameBytes ∧ room f.size.frameBytes = false then
      some (.noRoom f.size.frameBytes)
    else none

end Frame

/-- The calls made for some parts, in order, and how they end. -/
inductive Performs (offer : Part → Offer) (bar : Part → Option WriteFailure) :
    Outlet → List Part → List WriteCall → Option EncodeError → Outlet → Prop where
  | done {o} :
    Performs offer bar o [] [] none o
  /-- A part is taken whole, and the next one follows. -/
  | taken {o o' o'' part parts repeated last calls failure} :
    bar part = none →
    Outlet.Asks (o.see (offer part)) o repeated last o' →
    last.answer = .ok (offer part).length →
    Performs offer bar o' parts calls failure o'' →
    Performs offer bar o (part :: parts) (repeated ++ last :: calls) failure o''
  /-- The outlet says that it took more or less than the part. -/
  | miscounted {o o' part parts repeated last count} :
    bar part = none →
    Outlet.Asks (o.see (offer part)) o repeated last o' →
    last.answer = .ok count →
    count ≠ (offer part).length →
    Performs offer bar o (part :: parts) (repeated ++ [last])
      (some (.transportFailed part (.short count (offer part).length))) o'
  /-- The pipe has no reader any more. -/
  | broken {o o' part parts repeated last cause} :
    bar part = none →
    Outlet.Asks (o.see (offer part)) o repeated last o' →
    last.answer = .error cause →
    cause.kind = .brokenPipe →
    Performs offer bar o (part :: parts) (repeated ++ [last])
      (some (.transportFailed part .readerGone)) o'
  /-- The call fails in another way. -/
  | refused {o o' part parts repeated last cause} :
    bar part = none →
    Outlet.Asks (o.see (offer part)) o repeated last o' →
    last.answer = .error cause →
    cause.kind ≠ .brokenPipe →
    Performs offer bar o (part :: parts) (repeated ++ [last])
      (some (.transportFailed part (.failed cause))) o'
  /-- The part cannot be offered, and no call is made. -/
  | barred {o part parts failure} :
    bar part = some failure →
    Performs offer bar o (part :: parts) [] (some (.transportFailed part failure)) o

namespace WriteCall

variable {c : WriteCall} {message : Bytes}

/-- A call that says it took no more than was offered is honest. -/
lemma honest_of_answer {count : Nat} (answer : c.answer = .ok count)
    (few : count ≤ c.offer.bytes.length) : c.Honest := by
  rw [Honest, answer]
  exact few

/-- A call that takes as much as the whole message takes the message. -/
lemma taken_of_whole (start : c.offer.bytes <+: message) (honest : c.Honest)
    (answer : c.answer = .ok message.length) : c.taken = message := by
  rw [Honest, answer] at honest
  have all := start.eq_of_length_le honest
  rw [taken, answer, all]
  exact List.take_length

/-- An honest call took as many bytes as it says. -/
lemma length_taken {count : Nat} (honest : c.Honest) (answer : c.answer = .ok count) :
    c.taken.length = count := by
  rw [Honest, answer] at honest
  rw [taken, answer]
  exact List.length_take_of_le honest

/-- An honest call that did not answer with the length of the message took a front of it, and not the whole. -/
lemma taken_of_part (start : c.offer.bytes <+: message) (honest : c.Honest) (some : message ≠ [])
    (answer : c.answer ≠ .ok message.length) :
    c.taken <+: message ∧ c.taken.length < message.length := by
  have offered := start.length_le
  rw [Honest] at honest
  rw [taken]
  cases told : c.answer with
  | error cause => exact ⟨List.nil_prefix, List.length_pos_iff.2 some⟩
  | ok count =>
    rw [told] at honest answer
    have fewer : count ≠ message.length := fun all => answer (by rw [all])
    simp only at honest
    refine ⟨(List.take_prefix ..).trans start, ?_⟩
    rw [List.length_take]
    omega

/-- An interrupted call took nothing. -/
lemma taken_of_interrupted (interrupted : c.interrupted = true) : c.taken = [] := by
  rw [WriteCall.interrupted] at interrupted
  rw [taken]
  cases told : c.answer with
  | error cause => rfl
  | ok count =>
    rw [told] at interrupted
    cases interrupted

end WriteCall

namespace Offer

/-- An offer is as long as its bytes. -/
lemma length_eq (o : Offer) : o.length = o.bytes.length := by
  cases o with
  | single message => simp [length, lengths, bytes]
  | gather slices =>
    rw [length, lengths, bytes, List.length_flatten]
    rfl

/-- The first part of an offer is a front of its bytes. -/
lemma firstPart_isPrefix (o : Offer) : o.firstPart.bytes <+: o.bytes := by
  cases o with
  | single bytes => exact List.prefix_rfl
  | gather slices =>
    simp only [firstPart, bytes]
    induction slices with
    | nil => exact List.nil_prefix
    | cons slice slices ih =>
      cases slice with
      | nil => simpa using ih
      | cons b slice => simp

end Offer

namespace Outlet

/-- What an outlet sees of an offer is a front of its bytes. -/
lemma see_isPrefix (o : Outlet) (offer : Offer) : (o.see offer).bytes <+: offer.bytes := by
  rw [see]
  split
  · exact List.prefix_rfl
  · exact offer.firstPart_isPrefix

variable {o o' : Outlet} {seen : Offer} {repeated : List WriteCall} {last : WriteCall}

/-- The calls that are made for an offer are made by asking the outlet. -/
lemma callsFor_asks (seen : Offer) (o : Outlet) :
    let (repeated, last, replies) := callsFor seen o.replies
    Asks seen o repeated last { o with replies } := by
  obtain ⟨gathers, replies⟩ := o
  induction replies with
  | nil => exact .settled rfl rfl
  | cons reply replies ih =>
    cases reply with
    | all => exact .settled rfl rfl
    | count => exact .settled rfl rfl
    | lacking => exact .settled rfl rfl
    | failure cause =>
      simp only [callsFor]
      split
      case isTrue interrupted => exact .again rfl interrupted ih
      case isFalse final => exact .settled rfl (eq_false_of_ne_true final)

namespace Asks

/-- The last call for an offer was made with what the outlet saw of it. -/
lemma offer_last (asks : Asks seen o repeated last o') : last.offer = seen := by
  induction asks with
  | settled => rfl
  | again _ _ _ ih => exact ih

/-- The last call for an offer was made with a front of its bytes. -/
lemma last_isPrefix {offer : Offer} (asks : Asks (o.see offer) o repeated last o') :
    last.offer.bytes <+: offer.bytes := by
  rw [asks.offer_last]
  exact o.see_isPrefix offer

/-- The call that settles an offer is not an interrupted one. -/
lemma interrupted_last (asks : Asks seen o repeated last o') : last.interrupted = false := by
  induction asks with
  | settled _ final => exact final
  | again _ _ _ ih => exact ih

/-- The calls that are made again were interrupted. -/
lemma interrupted_repeated (asks : Asks seen o repeated last o') :
    ∀ c ∈ repeated, c.interrupted = true := by
  induction asks with
  | settled => exact List.forall_mem_nil _
  | again _ interrupted _ ih =>
    intro c mem
    cases mem with
    | head => exact interrupted
    | tail _ mem => exact ih c mem

/-- The calls that are made again took nothing. -/
lemma taken (asks : Asks seen o repeated last o') :
    repeated.flatMap WriteCall.taken = [] :=
  List.flatMap_eq_nil_iff.2 fun c mem =>
    WriteCall.taken_of_interrupted (asks.interrupted_repeated c mem)

/-- Nothing was taken of an offer that ended in an error. -/
lemma taken_error {cause : IoError} (asks : Asks seen o repeated last o')
    (told : last.answer = .error cause) : (repeated ++ [last]).flatMap WriteCall.taken = [] := by
  rw [List.flatMap_append, asks.taken, List.nil_append, List.flatMap_singleton, WriteCall.taken, told]

/-- The calls for an offer that is taken whole send it. -/
lemma taken_whole {offer : Offer} (asks : Asks (o.see offer) o repeated last o') (honest : last.Honest)
    (whole : last.answer = .ok offer.length) (calls : List WriteCall) :
    (repeated ++ last :: calls).flatMap WriteCall.taken =
      offer.bytes ++ calls.flatMap WriteCall.taken := by
  rw [Offer.length_eq] at whole
  rw [List.flatMap_append, asks.taken, List.nil_append, List.flatMap_cons,
    WriteCall.taken_of_whole asks.last_isPrefix honest whole]

/-- An outlet that takes everything is asked once. -/
lemma generous (asks : Asks seen o repeated last o') (generous : o.Generous) :
    repeated = [] ∧ last.answer = .ok seen.length ∧ o'.Generous ∧ (o.replies = [] → o' = o) := by
  obtain ⟨gathers, replies⟩ := o
  cases replies with
  | nil =>
    cases asks with
    | settled answer =>
      cases answer
      exact ⟨rfl, rfl, generous, fun _ => rfl⟩
    | again answer interrupted =>
      cases answer
      cases interrupted
  | cons reply replies =>
    obtain rfl := generous.replies reply (List.mem_cons_self ..)
    cases asks with
    | settled answer =>
      cases answer
      have later : ∀ reply ∈ replies, reply = .all := fun reply mem =>
        generous.replies reply (List.mem_cons_of_mem _ mem)
      exact ⟨rfl, rfl, ⟨generous.gathers, later⟩, nofun⟩
    | again answer interrupted =>
      cases answer
      cases interrupted

end Asks

end Outlet

namespace Performs

variable {offer : Part → Offer} {bar : Part → Option WriteFailure} {o o' o'' : Outlet}
  {parts later : List Part} {calls calls' : List WriteCall} {failure : Option EncodeError}

/-- Induction on the parts, where it does not matter in which way the last one was cut short. -/
@[elab_as_elim]
lemma by_parts
    {motive : ∀ {o o' parts calls failure}, Performs offer bar o parts calls failure o' → Prop}
    (done : ∀ {o}, motive (.done (o := o)))
    (taken : ∀ {o o' o'' part parts repeated last calls failure}
      (free : bar part = none) (asks : Outlet.Asks (o.see (offer part)) o repeated last o')
      (whole : last.answer = .ok (offer part).length)
      (later : Performs offer bar o' parts calls failure o''),
      motive later → motive (.taken free asks whole later))
    (cut : ∀ {o o' part parts repeated last failure}
      (performs : Performs offer bar o (part :: parts) (repeated ++ [last])
        (some (.transportFailed part failure)) o'),
      Outlet.Asks (o.see (offer part)) o repeated last o' → last.answer ≠ .ok (offer part).length →
      motive performs)
    (barred : ∀ {o part parts failure} (bars : bar part = some failure),
      motive (.barred bars : Performs offer bar o (part :: parts) [] _ o))
    (performs : Performs offer bar o parts calls failure o') : motive performs := by
  induction performs with
  | done => exact done
  | taken free asks whole later ih => exact taken free asks whole later ih
  | miscounted free asks told differ =>
    exact cut (.miscounted free asks told differ) asks (told ▸ fun whole => differ (Except.ok.inj whole))
  | broken free asks told broken => exact cut (.broken free asks told broken) asks (told ▸ nofun)
  | refused free asks told other => exact cut (.refused free asks told other) asks (told ▸ nofun)
  | barred bars => exact barred bars

/-- A part whose call is judged a failure is the last one that is offered. -/
lemma cut {part : Part} {repeated : List WriteCall} {last : WriteCall} {failure : WriteFailure}
    (free : bar part = none) (asks : Outlet.Asks (o.see (offer part)) o repeated last o')
    (short : Attempt.judge (offer part).length last.answer = some failure) :
    Performs offer bar o (part :: parts) (repeated ++ [last])
      (some (.transportFailed part failure)) o' := by
  cases told : last.answer with
  | ok count =>
    rw [told, Attempt.judge] at short
    split at short
    case isTrue => cases short
    case isFalse differ =>
      cases short
      exact .miscounted free asks told differ
  | error cause =>
    rw [told, Attempt.judge, WriteFailure.ofIoError] at short
    split at short
    case isTrue broken =>
      cases short
      exact .broken free asks told broken
    case isFalse other =>
      cases short
      exact .refused free asks told other

/-- Parts that were taken are followed by other ones. -/
lemma append (first : Performs offer bar o parts calls none o')
    (second : Performs offer bar o' later calls' failure o'') :
    Performs offer bar o (parts ++ later) (calls ++ calls') failure o'' := by
  generalize alive : (none : Option EncodeError) = outcome at first
  induction first with
  | done => exact second
  | taken free asks whole _ ih =>
    rw [List.append_assoc]
    exact .taken free asks whole (ih second alive)
  | _ => cases alive

/-- After a part that was not taken no other one is offered. -/
lemma stop {error : EncodeError} (performs : Performs offer bar o parts calls (some error) o')
    (later : List Part) : Performs offer bar o (parts ++ later) calls (some error) o' := by
  generalize failed : some error = outcome at performs
  induction performs with
  | done => cases failed
  | taken free asks whole _ ih => exact .taken free asks whole (ih failed)
  | miscounted free asks told differ => exact .miscounted free asks told differ
  | broken free asks told broken => exact .broken free asks told broken
  | refused free asks told other => exact .refused free asks told other
  | barred bars => exact .barred bars

/-- Parts fail in being written or not at all. -/
lemma failure_cases (performs : Performs offer bar o parts calls failure o') :
    failure = none ∨ ∃ part cause, failure = some (.transportFailed part cause) := by
  induction performs using by_parts with
  | done => exact .inl rfl
  | taken _ _ _ _ ih => exact ih
  | cut | barred => exact .inr ⟨_, _, rfl⟩

/-- The calls for a part that was not taken whole sent a front of it, and the parts after it sent nothing. -/
lemma sends_cut {part : Part} {repeated : List WriteCall} {last : WriteCall}
    (asks : Outlet.Asks (o.see (offer part)) o repeated last o') (some : (offer part).bytes ≠ [])
    (honest : ∀ c ∈ repeated ++ [last], c.Honest) (short : last.answer ≠ .ok (offer part).length)
    (later : Bytes) :
    (repeated ++ [last]).flatMap WriteCall.taken <+: (offer part).bytes ++ later ∧
      ((repeated ++ [last]).flatMap WriteCall.taken).length < ((offer part).bytes ++ later).length := by
  have fair : last.Honest := honest last (List.mem_append_right _ (List.mem_singleton_self _))
  rw [Offer.length_eq] at short
  obtain ⟨front, fewer⟩ := WriteCall.taken_of_part asks.last_isPrefix fair some short
  rw [List.flatMap_append, asks.taken, List.nil_append, List.flatMap_singleton]
  refine ⟨front.trans (List.prefix_append ..), ?_⟩
  rw [List.length_append]
  omega

/-- An honest outlet takes all of the parts, or it takes less and the parts fail. -/
lemma sends (performs : Performs offer bar o parts calls failure o')
    (some : ∀ part ∈ parts, (offer part).bytes ≠ []) (honest : ∀ c ∈ calls, c.Honest) :
    (failure = none ∧ calls.flatMap WriteCall.taken = parts.flatMap fun p => (offer p).bytes) ∨
      (failure ≠ none ∧ calls.flatMap WriteCall.taken <+: parts.flatMap (fun p => (offer p).bytes) ∧
        (calls.flatMap WriteCall.taken).length < (parts.flatMap fun p => (offer p).bytes).length) := by
  induction performs using by_parts with
  | done => exact .inl ⟨rfl, rfl⟩
  | taken _ asks whole _ ih =>
    obtain ⟨-, honest⟩ := List.forall_mem_append.1 honest
    obtain ⟨fair, honest⟩ := List.forall_mem_cons.1 honest
    obtain ⟨-, later⟩ := List.forall_mem_cons.1 some
    rw [asks.taken_whole fair whole, List.flatMap_cons]
    rcases ih later honest with ⟨alive, all⟩ | ⟨failed, front, fewer⟩
    · exact .inl ⟨alive, by rw [all]⟩
    · refine .inr ⟨failed, (List.prefix_append_right_inj _).2 front, ?_⟩
      simpa using fewer
  | cut _ asks short =>
    exact .inr ⟨nofun, sends_cut asks (some _ (List.mem_cons_self ..)) honest short _⟩
  | barred =>
    refine .inr ⟨nofun, List.nil_prefix, ?_⟩
    have first := List.length_pos_iff.2 (some _ (List.mem_cons_self ..))
    rw [List.flatMap_cons, List.length_append]
    exact Nat.add_pos_left first _

/-- An outlet that takes everything is honest and takes every part that can be offered. -/
lemma generous (performs : Performs offer bar o parts calls failure o') (generous : o.Generous) :
    (failure = none ∨ ∃ part ∈ parts, bar part ≠ none) ∧ (∀ c ∈ calls, c.Honest) ∧
      (o.replies = [] → o' = o) := by
  induction performs using by_parts with
  | done => exact ⟨.inl rfl, List.forall_mem_nil _, fun _ => rfl⟩
  | taken _ asks whole _ ih =>
    obtain ⟨rfl, all, generous, left⟩ := asks.generous generous
    obtain ⟨outcome, honest, left'⟩ := ih generous
    have fair : WriteCall.Honest _ :=
      WriteCall.honest_of_answer all (Nat.le_of_eq (by rw [asks.offer_last, Offer.length_eq]))
    refine ⟨outcome.imp_right ?_, List.forall_mem_cons.2 ⟨fair, honest⟩, fun none => ?_⟩
    · rintro ⟨part, mem, barred⟩
      exact ⟨part, List.mem_cons_of_mem _ mem, barred⟩
    · have same := left none
      rw [same] at left'
      exact left' none
  -- an outlet that takes everything answers no call with less
  | cut _ asks short =>
    obtain ⟨-, all, -⟩ := asks.generous generous
    rw [Outlet.see, if_pos generous.gathers] at all
    exact absurd all short
  | barred bars =>
    refine ⟨.inr ⟨_, List.mem_cons_self .., ?_⟩, List.forall_mem_nil _, fun _ => rfl⟩
    rw [bars]
    exact nofun

/-- An outlet that takes everything goes on taking everything. -/
lemma stays_generous (performs : Performs offer bar o parts calls failure o') (generous : o.Generous) :
    o'.Generous := by
  induction performs with
  | done | barred => exact generous
  | taken _ asks _ _ ih => exact ih (asks.generous generous).2.2.1
  | miscounted _ asks | broken _ asks | refused _ asks => exact (asks.generous generous).2.2.1

end Performs

end PlanarPipe
