import PlanarPipe.Proofs.Stream.Ledger

/-!
# How a session of pushes ends

A session stops at the first push that fails: the encoder stays as that push left it (`Encoder.after_stopped`), no
later push makes a call (`Encoder.pushAll_silent`), and the call that was made last tells by its answer how the
push failed (`Encoder.pushAll_getLast_call`). The frames that were acknowledged are those whose planes were
accepted in full (`Encoder.pushAll_completes`).
-/

namespace PlanarPipe

/-- The call was told that the pipe has no reader any more. -/
def WriteCall.readerGone (c : WriteCall) : Bool :=
  match c.answer with
  | .ok _ => false
  | .error cause => cause.kind = .brokenPipe

/-- The planes of a frame were accepted in full. They are offered last, when the other parts have been
accepted. -/
def Dealing.completes (d : Dealing) : Bool := d.part = .payload && d.accepted

namespace Performs

variable {offer : Part → Offer} {bar : Part → Option WriteFailure} {o o' : Outlet} {parts : List Part}
  {calls : List WriteCall} {failure : Option EncodeError}

/-- Where nothing bars them, some parts are not passed over without a call. -/
lemma exists_call (performs : Performs offer bar o parts calls failure o') (free : ∀ part, bar part = none)
    (some : parts ≠ []) : calls ≠ [] := by
  cases performs with
  | done => exact absurd rfl some
  | taken | miscounted | broken | refused => exact List.append_ne_nil_of_right_ne_nil _ (List.cons_ne_nil _ _)
  | barred barred =>
    rw [free] at barred
    cases barred

/-- The call that was made last tells how the parts failed. -/
lemma getLast_call {cause : EncodeError} (performs : Performs offer bar o parts calls (some cause) o')
    (free : ∀ part, bar part = none) :
    ∃ c, calls.getLast? = some c ∧ cause.isReaderGone = c.readerGone := by
  generalize failed : some cause = failure at performs
  induction performs with
  | done => cases failed
  | taken _ _ _ _ ih =>
    obtain ⟨c, last, told⟩ := ih failed
    refine ⟨c, ?_, told⟩
    rw [List.getLast?_append, List.getLast?_cons, last]
    rfl
  | @miscounted _ _ _ _ _ last _ _ _ answer =>
    cases failed
    exact ⟨last, List.getLast?_concat, by rw [WriteCall.readerGone, answer]; rfl⟩
  | @broken _ _ _ _ _ last cause _ _ answer broken =>
    cases failed
    refine ⟨last, List.getLast?_concat, ?_⟩
    rw [WriteCall.readerGone, answer]
    exact (decide_eq_true broken).symm
  | @refused _ _ _ _ _ last cause _ _ answer other =>
    cases failed
    refine ⟨last, List.getLast?_concat, ?_⟩
    rw [WriteCall.readerGone, answer]
    exact (decide_eq_false other).symm
  | barred barred =>
    rw [free] at barred
    cases barred

end Performs

namespace Encoder

variable {e : Encoder} {f : Frame} {frames : List Frame}

/-- An encoder that has stopped is not changed by any push. -/
lemma after_stopped (room : Nat → Bool) (stopped : e.stopped = true) (outlet : Outlet) (frames : List Frame) :
    e.after (e.pushAll room outlet frames) = e := by
  induction frames generalizing outlet with
  | nil => rfl
  | cons f frames ih =>
    have same : (e.pushWithin room f outlet).encoder = e := by rw [pushWithin, if_pos stopped]
    rw [pushAll, after_cons, same]
    exact ih _

/-- Pushes that fail because the encoder has stopped make no calls and are not acknowledged. -/
lemma pushAll_silent (room : Nat → Bool) (stopped : e.stopped = true) (outlet : Outlet) (frames : List Frame) :
    (e.pushAll room outlet frames).flatMap Attempt.calls = [] ∧
      (e.pushAll room outlet frames).countP (fun a => a.failure.isNone) = 0 := by
  have silent := pushAll_stopped room outlet frames stopped
  constructor
  · exact List.flatMap_eq_nil_iff.2 fun a mem => (silent a mem).2
  · rw [List.countP_eq_zero]
    intro a mem
    rw [(silent a mem).1]
    exact Bool.false_ne_true

/-- An acknowledged push comes before whatever the pushes after it come to. -/
lemma pushAll_acknowledged {room : Nat → Bool} {outlet : Outlet} (frames : List Frame)
    (alive : (e.pushWithin room f outlet).failure = none) :
    let a := e.pushWithin room f outlet
    let attempts := e.pushAll room outlet (f :: frames)
    let later := a.encoder.pushAll room a.outlet frames
    attempts.flatMap Attempt.calls = a.calls ++ later.flatMap Attempt.calls ∧
      attempts.findSome? Attempt.failure = later.findSome? Attempt.failure ∧
      attempts.countP (fun a => a.failure.isNone) = later.countP (fun a => a.failure.isNone) + 1 := by
  simp only [pushAll, List.flatMap_cons, List.findSome?_cons, List.countP_cons, alive, Option.isNone_none, if_true,
    and_self]

/-- After a push that fails nothing comes of the others. -/
lemma pushAll_failed {room : Nat → Bool} {outlet : Outlet} {cause : EncodeError} (frames : List Frame)
    (held : f.Addressable) (going : e.stopped = false) (failed : (e.pushWithin room f outlet).failure = some cause) :
    let attempts := e.pushAll room outlet (f :: frames)
    attempts.flatMap Attempt.calls = (e.pushWithin room f outlet).calls ∧
      attempts.findSome? Attempt.failure = some cause ∧ attempts.countP (fun a => a.failure.isNone) = 0 := by
  have stops := (push_performs room outlet held.exact going).2.2
  rw [failed] at stops
  obtain ⟨silent, none⟩ := pushAll_silent room stops (e.pushWithin room f outlet).outlet frames
  simp only [pushAll, List.flatMap_cons, List.findSome?_cons, List.countP_cons, failed, silent, none,
    List.append_nil, Option.isNone_some, Bool.false_eq_true, if_false, and_self]

/-- A frame is acknowledged exactly if its planes are accepted in full. -/
lemma push_completes (e : Encoder) (room : Nat → Bool) (outlet : Outlet) (held : f.Addressable) :
    let a := e.pushWithin room f outlet
    (dealingsOf e.announced f a).countP Dealing.completes = if a.failure.isNone then 1 else 0 := by
  intro a
  cases going : e.stopped with
  | true =>
    obtain ⟨failure, calls, -⟩ := push_stopped f room outlet going
    rw [dealingsOf, show a.calls = [] from calls, show a.failure = _ from failure, answered, List.filter_nil,
      List.zip_nil_right]
    rfl
  | false =>
    have count := (push_performs room outlet held.exact going).1.count_payload
    rw [← count, dealingsOf, accepted, List.count_eq_countP, List.countP_map, List.countP_map, List.countP_filter]
    apply List.countP_congr
    intro answer _
    simp only [Function.comp_apply, Dealing.completes, Dealing.accepted, Dealing.length_eq held e.timing]
    simp

/-- The frames whose planes were accepted in full are the ones whose push succeeded. -/
lemma pushAll_completes (e : Encoder) (room : Nat → Bool) (outlet : Outlet)
    (held : ∀ f ∈ frames, f.Addressable) :
    let attempts := e.pushAll room outlet frames
    (dealings e.announced (frames.zip attempts)).countP Dealing.completes =
      attempts.countP fun a => a.failure.isNone := by
  induction frames generalizing e outlet with
  | nil => rfl
  | cons f frames ih =>
    obtain ⟨held, later⟩ := List.forall_mem_cons.1 held
    have first := e.push_completes room outlet held
    have announced := (e.push_accounts room outlet held).announced
    rw [pushAll]
    generalize e.pushWithin room f outlet = a at first announced ⊢
    have rest := ih a.encoder a.outlet later
    simp only [List.zip_cons_cons, dealings, ← announced, List.countP_append, List.countP_cons] at first rest ⊢
    rw [first, rest, Nat.add_comm]

/-- An encoder has stopped after some pushes exactly if one of them failed. -/
lemma stopped_after (room : Nat → Bool) (outlet : Outlet) (held : ∀ f ∈ frames, f.Addressable)
    (going : e.stopped = false) :
    let attempts := e.pushAll room outlet frames
    (e.after attempts).stopped = attempts.any fun a => a.failure.isSome := by
  induction frames generalizing e outlet with
  | nil => exact going
  | cons f frames ih =>
    obtain ⟨held, later⟩ := List.forall_mem_cons.1 held
    have stops := (push_performs room outlet held.exact going).2.2
    rw [pushAll]
    simp only [after_cons, List.any_cons]
    generalize e.pushWithin room f outlet = a at stops ⊢
    cases outcome : a.failure with
    | none =>
      rw [outcome] at stops
      exact ih a.outlet later stops
    | some cause =>
      rw [outcome] at stops
      rw [after_stopped room stops]
      exact stops

/-- The call that was made last in a session tells how the push that ended it failed. -/
lemma pushAll_getLast_call {cause : EncodeError} (outlet : Outlet) (held : ∀ f ∈ frames, f.Addressable)
    (going : e.stopped = false)
    (failed : (e.pushAll plenty outlet frames).findSome? Attempt.failure = some cause) :
    ∃ c, ((e.pushAll plenty outlet frames).flatMap Attempt.calls).getLast? = some c ∧
      cause.isReaderGone = c.readerGone := by
  induction frames generalizing e outlet with
  | nil => cases failed
  | cons f frames ih =>
    obtain ⟨held, later⟩ := List.forall_mem_cons.1 held
    obtain ⟨performs, -, stops⟩ := push_performs plenty outlet held.exact going
    rw [pushAll] at failed ⊢
    rw [List.findSome?_cons] at failed
    rw [List.flatMap_cons]
    generalize e.pushWithin plenty f outlet = a at performs stops failed ⊢
    cases outcome : a.failure with
    | none =>
      rw [outcome] at stops failed
      obtain ⟨c, last, told⟩ := ih a.outlet later stops failed
      refine ⟨c, ?_, told⟩
      rw [List.getLast?_append, last]
      rfl
    -- the pushes after the one that failed make no calls, so its last call is the last one of all
    | some error =>
      rw [outcome] at performs stops failed
      cases failed
      rw [(pushAll_silent plenty stops a.outlet frames).1, List.append_nil]
      exact performs.getLast_call (f.bar_plenty _)

/-- After a session in which nothing failed another push makes more calls. -/
lemma pushAll_concat (outlet : Outlet) (held : ∀ f ∈ frames, f.Addressable) (next : f.Addressable)
    (going : e.stopped = false) (alive : ∀ a ∈ e.pushAll plenty outlet frames, a.failure = none) :
    ((e.pushAll plenty outlet frames).flatMap Attempt.calls).length <
      ((e.pushAll plenty outlet (frames ++ [f])).flatMap Attempt.calls).length := by
  induction frames generalizing e outlet with
  | nil =>
    have performs := (push_performs plenty outlet next.exact going).1
    have some : f.parts e.announced ≠ [] := List.append_ne_nil_of_right_ne_nil _ (List.cons_ne_nil _ _)
    have calls := performs.exists_call (f.bar_plenty _) some
    rw [List.nil_append, pushAll, pushAll, pushAll, List.flatMap_singleton]
    exact List.length_pos_iff.2 calls
  | cons g frames ih =>
    obtain ⟨held, later⟩ := List.forall_mem_cons.1 held
    have stops := (push_performs plenty outlet held.exact going).2.2
    rw [pushAll] at alive
    rw [List.cons_append, pushAll, pushAll, List.flatMap_cons, List.flatMap_cons, List.length_append,
      List.length_append]
    obtain ⟨first, alive⟩ := List.forall_mem_cons.1 alive
    rw [first] at stops
    exact Nat.add_lt_add_left (ih _ later stops alive) _

end Encoder

end PlanarPipe
