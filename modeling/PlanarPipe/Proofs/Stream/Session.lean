import PlanarPipe.Proofs.Stream.Push

/-!
# What a session of pushes does

A session pushes one frame after the other. `Delivers` lists what may come of it: frames that are
acknowledged and sent whole, then possibly one that fails and is sent in part, and nothing after it.
`Encoder.pushAll_delivers` shows that every session goes that way, and `Delivers.split` draws the line
between the frames that were delivered and those that were lost.
-/

namespace PlanarPipe

open Wire

/-- The bytes that went out in a session. -/
def sent (attempts : List Attempt) : Bytes := attempts.flatMap Attempt.taken

/-- What some attempts sent is what the first one sent, and then the others. -/
lemma sent_cons (a : Attempt) (attempts : List Attempt) :
    sent (a :: attempts) = a.taken ++ sent attempts := List.flatMap_cons

/-- A session of pushes where `current` was announced last. -/
inductive Delivers (timing : Timing) : Option Size → List Frame → List Attempt → Prop where
  | done {current} :
    Delivers timing current [] []
  /-- A frame is acknowledged. -/
  | pushed {current f frames a attempts} :
    a.failure = none →
    (a.Honest → a.taken = encodeAll (f.records timing current)) →
    Delivers timing (some f.size) frames attempts →
    Delivers timing current (f :: frames) (a :: attempts)
  /-- A frame fails, and no call is made for any other. -/
  | cut {current f frames a attempts} :
    a.failure ≠ none →
    (a.Honest → a.taken <+: encodeAll (f.records timing current) ∧
      a.taken.length < (encodeAll (f.records timing current)).length) →
    (∀ b ∈ attempts, b.failure = some .stopped ∧ b.calls = []) →
    attempts.length = frames.length →
    Delivers timing current (f :: frames) (a :: attempts)

/-- What is left of the frames that were lost: less than the first of them. -/
inductive Remnant (timing : Timing) (current : Option Size) : List Frame → Bytes → Prop where
  | nothing :
    Remnant timing current [] []
  | part {f frames part} :
    part <+: encodeAll (f.records timing current) →
    part.length < (encodeAll (f.records timing current)).length →
    Remnant timing current (f :: frames) part

namespace Encoder

variable {e : Encoder} {frames : List Frame}

/-- There is one attempt for each frame. -/
lemma length_pushAll (e : Encoder) (room : Nat → Bool) (outlet : Outlet) (frames : List Frame) :
    (e.pushAll room outlet frames).length = frames.length := by
  induction frames generalizing e outlet with
  | nil => rfl
  | cons f frames ih =>
    rw [pushAll]
    exact congrArg Nat.succ (ih ..)

/-- After a failure every push fails without a call. -/
lemma pushAll_stopped (room : Nat → Bool) (outlet : Outlet) (frames : List Frame) (stopped : e.stopped = true) :
    ∀ a ∈ e.pushAll room outlet frames, a.failure = some .stopped ∧ a.calls = [] := by
  induction frames generalizing e outlet with
  | nil =>
    rw [pushAll]
    exact List.forall_mem_nil _
  | cons f frames ih =>
    have push := push_stopped f room outlet stopped
    rw [pushAll]
    generalize e.pushWithin room f outlet = a at push ⊢
    obtain ⟨failure, calls, stopped⟩ := push
    exact List.forall_mem_cons.2 ⟨⟨failure, calls⟩, ih a.outlet stopped⟩

/-- Every session goes the way that is listed. -/
lemma pushAll_delivers (e : Encoder) (room : Nat → Bool) (outlet : Outlet) (held : ∀ f ∈ frames, f.Addressable)
    (going : e.stopped = false) :
    Delivers e.timing e.current frames (e.pushAll room outlet frames) := by
  induction frames generalizing e outlet with
  | nil => exact .done
  | cons f frames ih =>
    have push := push_sends room outlet (held f (List.mem_cons_self ..)).exact going
    rw [pushAll]
    generalize e.pushWithin room f outlet = a at push ⊢
    cases push with
    | whole alive timing current going _ taken =>
      -- what the encoder has become is what the rest of the session starts with
      have later := ih a.encoder a.outlet (fun g mem => held g (List.mem_cons_of_mem _ mem)) going
      rw [timing, current] at later
      exact .pushed alive taken later
    | part failed stopped _ taken =>
      exact .cut failed taken (pushAll_stopped room a.outlet frames stopped) (length_pushAll ..)

/-- An outlet that takes everything acknowledges every frame, if there is room to put it together. -/
lemma pushAll_unlimited (e : Encoder) (held : ∀ f ∈ frames, f.Addressable) (going : e.stopped = false) :
    ∀ a ∈ e.pushAll plenty .unlimited frames, a.failure = none ∧ a.Honest := by
  induction frames generalizing e with
  | nil =>
    rw [pushAll]
    exact List.forall_mem_nil _
  | cons f frames ih =>
    have push := push_sends plenty .unlimited (held f (List.mem_cons_self ..)).exact going
    rw [pushAll]
    generalize e.pushWithin plenty f .unlimited = a at push ⊢
    cases push with
    | whole alive _ _ going free _ =>
      obtain ⟨unlimited, honest⟩ := free rfl
      intro b mem
      cases mem with
      | head => exact ⟨alive, honest⟩
      | tail _ mem =>
        rw [unlimited] at mem
        exact ih a.encoder (fun g mem => held g (List.mem_cons_of_mem _ mem)) going b mem
    | part _ _ cramped =>
      obtain ⟨_, none⟩ := cramped rfl
      cases none

end Encoder

namespace Delivers

variable {timing : Timing} {current : Option Size} {frames : List Frame} {attempts : List Attempt}

/-- A session in which every frame is acknowledged sends its records. -/
lemma sent_eq (delivers : Delivers timing current frames attempts)
    (all : ∀ a ∈ attempts, a.failure = none ∧ a.Honest) :
    sent attempts = encodeAll (script timing current frames) := by
  induction delivers with
  | done => rfl
  | @pushed current f frames a attempts _ taken _ ih =>
    have first := taken (all a (List.mem_cons_self ..)).2
    have later := ih fun b mem => all b (List.mem_cons_of_mem _ mem)
    rw [sent_cons, first, later, script, encodeAll_append]
  | @cut current f frames a attempts failed => exact absurd (all a (List.mem_cons_self ..)).1 failed

/-- The acknowledged frames of a session come first and are sent as its records. What is sent after them
is less than the records of the frame that failed. -/
lemma split (delivers : Delivers timing current frames attempts) (honest : ∀ a ∈ attempts, a.Honest) :
    ∃ delivered lost part,
      frames = delivered ++ lost ∧
      attempts.map (fun a => a.failure.isNone) =
        List.replicate delivered.length true ++ List.replicate lost.length false ∧
      sent attempts = encodeAll (script timing current delivered) ++ part ∧
      Remnant timing (sizeAfterAll current (script timing current delivered)) lost part := by
  -- the first push that fails is where the list is cut: those after it send nothing
  induction delivers with
  | done => exact ⟨[], [], [], rfl, rfl, rfl, .nothing⟩
  | @pushed current f frames a attempts alive taken _ ih =>
    have first := taken (honest a (List.mem_cons_self ..))
    obtain ⟨delivered, lost, part, rfl, outcome, later, remnant⟩ :=
      ih fun b mem => honest b (List.mem_cons_of_mem _ mem)
    refine ⟨f :: delivered, lost, part, rfl, ?_, ?_, ?_⟩
    · rw [List.map_cons, outcome, alive]
      rfl
    · rw [sent_cons, first, later, script, encodeAll_append, List.append_assoc]
    · rw [sizeAfterAll_script_cons]
      exact remnant
  | @cut current f frames a attempts failed taken silent long =>
    obtain ⟨start, short⟩ := taken (honest a (List.mem_cons_self ..))
    have calm : ∀ b ∈ attempts, b.failure.isNone = false ∧ b.taken = [] := by
      intro b mem
      obtain ⟨failure, calls⟩ := silent b mem
      rw [failure, Attempt.taken, calls]
      exact ⟨rfl, rfl⟩
    refine ⟨[], f :: frames, a.taken, rfl, ?_, ?_, .part start short⟩
    · have outcome : attempts.map (fun a => a.failure.isNone) = List.replicate frames.length false := by
        rw [List.eq_replicate_iff, List.length_map, List.forall_mem_map]
        exact ⟨long, fun b mem => (calm b mem).1⟩
      rw [List.map_cons, outcome, Option.isNone_eq_false_iff.2 (Option.isSome_iff_ne_none.2 failed)]
      rfl
    · rw [sent_cons, sent, List.flatMap_eq_nil_iff.2 fun b mem => (calm b mem).2, List.append_nil]
      rfl

end Delivers

def session (timing : Timing) (room : Nat → Bool) (outlet : Outlet) (frames : List Frame) :
    List Attempt :=
  (Encoder.start timing).pushAll room outlet frames

/-- A session whose outlet takes everything and which has room for every frame. -/
def fullSession (timing : Timing) (frames : List Frame) : List Attempt :=
  session timing Encoder.plenty .unlimited frames

variable {frames : List Frame}

/-- In a full session every frame is acknowledged. -/
lemma fullSession_acknowledged (timing : Timing) (held : ∀ f ∈ frames, f.Addressable) :
    ∀ a ∈ fullSession timing frames, a.failure = none ∧ a.Honest :=
  Encoder.pushAll_unlimited (.start timing) held rfl

/-- A full session sends its transcript. -/
lemma sent_fullSession (timing : Timing) (held : ∀ f ∈ frames, f.Addressable) :
    sent (fullSession timing frames) = encodeAll (transcript timing frames) := by
  have delivers := Encoder.pushAll_delivers (.start timing) Encoder.plenty .unlimited held rfl
  rw [transcript_eq]
  exact delivers.sent_eq (fullSession_acknowledged timing held)

end PlanarPipe
