import Mathlib.Data.List.Basic
import PlanarPipe.Proofs.Stream.Calls

/-!
# What the calls of a push come to

Every call that is not interrupted belongs to one part of the frame (`answered`), and the part is
accepted if the call took all of it (`accepted`). What an encoder keeps of a push is told from these
alone (`Books`): how many bytes were accepted, which size was announced, and how long a buffer was
needed.
-/

namespace PlanarPipe

/-- The outlet says that it took just as much as was expected. -/
def WriteCall.tookAll (expected : Nat) (c : WriteCall) : Bool :=
  match c.answer with
  | .ok count => count == expected
  | .error _ => false

/-- The calls that count, each with the part that it was made for. -/
def answered (parts : List Part) (calls : List WriteCall) : List (Part × WriteCall) :=
  parts.zip (calls.filter fun c => !c.interrupted)

/-- The parts for which calls were made. -/
def tried (parts : List Part) (calls : List WriteCall) : List Part :=
  (answered parts calls).map Prod.fst

/-- The parts whose calls took all of them. -/
def accepted (offer : Part → Offer) (parts : List Part) (calls : List WriteCall) : List Part :=
  ((answered parts calls).filter fun a => a.2.tookAll (offer a.1).length).map Prod.fst

/-- How many bytes some parts take. -/
def octets (offer : Part → Offer) (parts : List Part) : Nat :=
  (parts.map fun part => (offer part).length).foldr (· + ·) 0

/-- What an encoder keeps of a frame of which calls were made for some parts and some were accepted. -/
structure Books (f : Frame) (e : Encoder) (tried accepted : List Part) (e' : Encoder) : Prop where
  timing : e'.timing = e.timing
  stopped : e'.stopped = e.stopped
  frames : e'.frames = e.frames + accepted.count .payload
  bytes : e'.bytes = e.bytes + octets (f.offer e.timing) accepted
  announced : e'.announced = if .announcement ∈ accepted then f.size else e.announced
  scratch : e'.scratch.size =
    if .payload ∈ tried ∧ f.isPacked = false then max e.scratch.size f.size.frameBytes
    else e.scratch.size

/-- The count of a short write. -/
def EncodeError.shortCount : EncodeError → Option Nat
  | .transportFailed _ (.short written _) => some written
  | _ => none

/-- An outlet took all that was expected just if it answered with that count. -/
lemma WriteCall.tookAll_iff {expected : Nat} {c : WriteCall} :
    c.tookAll expected = true ↔ c.answer = .ok expected := by
  rw [tookAll]
  cases c.answer with
  | error cause => exact ⟨nofun, nofun⟩
  | ok count => rw [beq_iff_eq, Except.ok.injEq]

/-- Parts and later parts take the bytes of both. -/
lemma octets_append (offer : Part → Offer) (parts later : List Part) :
    octets offer (parts ++ later) = octets offer parts + octets offer later := by
  induction parts with
  | nil => exact (Nat.zero_add _).symm
  | cons part parts ih =>
    rw [List.cons_append]
    simp only [octets, List.map_cons, List.foldr_cons] at ih ⊢
    omega

/-- The bytes that are offered for some parts are as many as the parts take. -/
lemma length_flatMap_offer (offer : Part → Offer) (parts : List Part) :
    (parts.flatMap fun part => (offer part).bytes).length = octets offer parts := by
  induction parts with
  | nil => rfl
  | cons part parts ih =>
    rw [List.flatMap_cons, List.length_append, ih, ← Offer.length_eq]
    rfl

/-- Without a call nothing is accepted. -/
lemma accepted_nil (offer : Part → Offer) (parts : List Part) : accepted offer parts [] = [] := by
  rw [accepted, answered, List.filter_nil, List.zip_nil_right]
  rfl

namespace Books

variable {f : Frame} {e e' e'' : Encoder} {parts got parts' got' : List Part}

/-- An encoder for which no call was made keeps what it kept. -/
lemma nothing (f : Frame) (e : Encoder) : Books f e [] [] e where
  timing := rfl
  stopped := rfl
  frames := rfl
  bytes := rfl
  announced := rfl
  scratch := rfl

/-- What comes of some parts is added to what came of those before. -/
lemma trans (first : Books f e parts got e') (second : Books f e' parts' got' e'') :
    Books f e (parts ++ parts') (got ++ got') e'' where
  timing := second.timing.trans first.timing
  stopped := second.stopped.trans first.stopped
  frames := by
    rw [second.frames, first.frames, List.count_append]
    omega
  bytes := by
    rw [second.bytes, first.bytes, first.timing, octets_append]
    omega
  announced := by
    rw [second.announced, first.announced]
    by_cases new : Part.announcement ∈ got' <;> simp [new]
  scratch := by
    rw [second.scratch, first.scratch]
    by_cases padded : f.isPacked = false
    · by_cases before : Part.payload ∈ parts <;> by_cases after : Part.payload ∈ parts' <;>
        simp [padded, before, after]
    · simp [padded]

end Books

namespace Outlet.Asks

variable {o o' : Outlet} {seen : Offer} {repeated : List WriteCall} {last : WriteCall}

/-- Of the calls for one part only the last one counts. -/
lemma filter_eq (asks : Asks seen o repeated last o') (calls : List WriteCall) :
    (repeated ++ last :: calls).filter (fun c => !c.interrupted) =
      last :: calls.filter fun c => !c.interrupted := by
  have none : repeated.filter (fun c => !c.interrupted) = [] := by
    rw [List.filter_eq_nil_iff]
    intro c mem
    rw [asks.interrupted_repeated c mem]
    exact nofun
  rw [List.filter_append, none, List.nil_append, List.filter_cons_of_pos]
  rw [asks.interrupted_last]
  rfl

/-- The calls for one part answer for that part with the last of them. -/
lemma answered_eq (asks : Asks seen o repeated last o') (part : Part) :
    answered [part] (repeated ++ [last]) = [(part, last)] := by
  rw [answered, asks.filter_eq]
  rfl

/-- The calls for one part try that part. -/
lemma tried_eq (asks : Asks seen o repeated last o') (part : Part) :
    tried [part] (repeated ++ [last]) = [part] := by
  rw [tried, asks.answered_eq]
  rfl

/-- The last call for a part tells whether it is accepted, and the later calls are for the later parts. -/
lemma accepted_cons (asks : Asks seen o repeated last o') (offer : Part → Offer) (part : Part)
    (parts : List Part) (calls : List WriteCall) :
    accepted offer (part :: parts) (repeated ++ last :: calls) =
      (if last.tookAll (offer part).length then [part] else []) ++ accepted offer parts calls := by
  rw [accepted, answered, asks.filter_eq, List.zip_cons_cons]
  cases all : last.tookAll (offer part).length <;> simp [all, accepted, answered]

/-- Nothing is accepted of a part that is not taken whole, and of those after it. -/
lemma accepted_short (asks : Asks seen o repeated last o') {offer : Part → Offer} {part : Part}
    (short : last.answer ≠ .ok (offer part).length) (parts : List Part) :
    accepted offer (part :: parts) (repeated ++ [last]) = [] := by
  rw [asks.accepted_cons, accepted_nil, if_neg (mt WriteCall.tookAll_iff.1 short)]
  rfl

/-- One part is accepted just if the last call for it took all of it. -/
lemma accepted_eq (asks : Asks seen o repeated last o') (offer : Part → Offer) (part : Part) :
    accepted offer [part] (repeated ++ [last]) =
      if last.tookAll (offer part).length then [part] else [] := by
  rw [asks.accepted_cons, accepted_nil, List.append_nil]

end Outlet.Asks

namespace Performs

variable {offer : Part → Offer} {bar : Part → Option WriteFailure} {o o' : Outlet}
  {parts later : List Part} {calls calls' : List WriteCall} {failure : Option EncodeError}

/-- Where nothing fails, all parts are accepted. -/
lemma accepted_all (performs : Performs offer bar o parts calls none o') :
    accepted offer parts calls = parts := by
  generalize alive : (none : Option EncodeError) = failure at performs
  induction performs with
  | done => rfl
  | taken _ asks whole _ ih =>
    rw [asks.accepted_cons, if_pos (WriteCall.tookAll_iff.2 whole), ih alive]
    rfl
  | _ => cases alive

/-- The part that is not taken is not accepted, and nor is any that follows it. -/
lemma accepted_front {error : EncodeError} (performs : Performs offer bar o parts calls (some error) o') :
    ∃ part later, parts = accepted offer parts calls ++ part :: later := by
  generalize failed : some error = failure at performs
  induction performs using by_parts with
  | done => cases failed
  | @taken _ _ _ part _ _ _ _ _ _ asks whole _ ih =>
    obtain ⟨part', later, split⟩ := ih failed
    refine ⟨part', later, ?_⟩
    rw [asks.accepted_cons, if_pos (WriteCall.tookAll_iff.2 whole)]
    exact congrArg (part :: ·) split
  | @cut _ _ part parts _ _ _ _ asks short => exact ⟨part, parts, by rw [asks.accepted_short short]; rfl⟩
  | @barred _ part parts => exact ⟨part, parts, by rw [accepted_nil]; rfl⟩

/-- What an honest outlet takes is what is accepted, and the part of a record that it took last. -/
lemma length_taken (performs : Performs offer bar o parts calls failure o')
    (honest : ∀ c ∈ calls, c.Honest)
    (bars : ∀ part failure, bar part = some failure → ∃ size, failure = .noRoom size) :
    (calls.flatMap WriteCall.taken).length =
      octets offer (accepted offer parts calls) + (failure.bind EncodeError.shortCount).getD 0 := by
  induction performs with
  | done => rfl
  | @taken _ _ _ part parts _ _ calls _ _ asks whole _ ih =>
    obtain ⟨-, honest⟩ := List.forall_mem_append.1 honest
    obtain ⟨fair, honest⟩ := List.forall_mem_cons.1 honest
    rw [asks.taken_whole fair whole, asks.accepted_cons, if_pos (WriteCall.tookAll_iff.2 whole),
      List.length_append, octets_append, ih honest, ← Offer.length_eq, Nat.add_assoc]
    rfl
  | @miscounted _ _ _ _ _ last count _ asks told differ =>
    have fair : last.Honest := honest last (List.mem_append_right _ (List.mem_singleton_self _))
    rw [asks.accepted_short (told ▸ fun whole => differ (Except.ok.inj whole)), List.flatMap_append,
      asks.taken, List.nil_append, List.flatMap_singleton, WriteCall.length_taken fair told]
    exact (Nat.zero_add count).symm
  | @broken _ _ _ _ _ last cause _ asks told =>
    rw [asks.accepted_short (told ▸ nofun), asks.taken_error told]
    rfl
  | @refused _ _ _ _ _ last cause _ asks told other =>
    rw [asks.accepted_short (told ▸ nofun), asks.taken_error told]
    rfl
  | @barred _ part _ failure barred =>
    obtain ⟨size, rfl⟩ := bars part failure barred
    rw [accepted_nil]
    rfl

/-- No more than one call counts for a part, and none is missing if nothing fails. -/
lemma length_answers (performs : Performs offer bar o parts calls failure o') :
    (calls.filter fun c => !c.interrupted).length ≤ parts.length ∧
      (failure = none → (calls.filter fun c => !c.interrupted).length = parts.length) := by
  induction performs using by_parts with
  | done => exact ⟨Nat.le_refl _, fun _ => rfl⟩
  | taken _ asks _ _ ih =>
    rw [asks.filter_eq]
    exact ⟨Nat.succ_le_succ ih.1, fun alive => congrArg Nat.succ (ih.2 alive)⟩
  | cut _ asks =>
    rw [asks.filter_eq]
    exact ⟨Nat.succ_le_succ (Nat.zero_le _), nofun⟩
  | barred => exact ⟨Nat.zero_le _, nofun⟩

/-- The calls for parts that were taken belong to them, and those that follow to other parts. -/
lemma answered_append (performs : Performs offer bar o parts calls none o') :
    answered (parts ++ later) (calls ++ calls') = answered parts calls ++ answered later calls' := by
  rw [answered, List.filter_append, List.zip_append (performs.length_answers.2 rfl).symm]
  rfl

/-- No call answers for a part after the one that failed. -/
lemma answered_stop (performs : Performs offer bar o parts calls failure o') :
    answered (parts ++ later) calls = answered parts calls := by
  have few := performs.length_answers.1
  rw [answered, answered]
  generalize calls.filter (fun c => !c.interrupted) = answers at few ⊢
  have fewer : answers.length ≤ (parts ++ later).length := by
    rw [List.length_append]
    omega
  -- a pairing goes no further than the shorter of its lists
  calc (parts ++ later).zip answers
      = ((parts ++ later).take answers.length).zip (answers.take answers.length) := by
        rw [List.zip_eq_zip_take_min, Nat.min_eq_right fewer]
    _ = (parts.take answers.length).zip (answers.take answers.length) := by
        rw [List.take_append_of_le_length few]
    _ = parts.zip answers := by
        rw [@List.zip_eq_zip_take_min _ _ parts, Nat.min_eq_right few]

/-- Where the first parts do not fail, what is accepted of them comes before what is accepted of the later ones. -/
lemma accepted_append (performs : Performs offer bar o parts calls none o') :
    accepted offer (parts ++ later) (calls ++ calls') =
      accepted offer parts calls ++ accepted offer later calls' := by
  rw [accepted, performs.answered_append, List.filter_append, List.map_append]
  rfl

/-- Where the first parts do not fail, they are tried before the later ones. -/
lemma tried_append (performs : Performs offer bar o parts calls none o') :
    tried (parts ++ later) (calls ++ calls') = tried parts calls ++ tried later calls' := by
  rw [tried, performs.answered_append, List.map_append]
  rfl

/-- No part is accepted after the one that failed. -/
lemma accepted_stop (performs : Performs offer bar o parts calls failure o') :
    accepted offer (parts ++ later) calls = accepted offer parts calls := by
  rw [accepted, performs.answered_stop]
  rfl

/-- No part is tried after the one that failed. -/
lemma tried_stop (performs : Performs offer bar o parts calls failure o') :
    tried (parts ++ later) calls = tried parts calls := by
  rw [tried, performs.answered_stop]
  rfl

end Performs

end PlanarPipe
