import PlanarPipe.Proofs.Stream.Push

/-!
# What a push makes sure of for any frame

Whatever a frame holds and whatever becomes of it, each stage of a push only adds to the calls that were
made before, and fails with the part that it was to write if it fails (`Attempt.Extends`). So a push that
is no longer possible is told from one that was tried (`Encoder.failure_pushWithin`), and the first push
of a stream starts with a call that offers the announcement (`Encoder.pushWithin_announces`).
-/

namespace PlanarPipe

/-- The first call for an offer offers what is seen of it. -/
lemma Outlet.Asks.first {seen : Offer} {o o' : Outlet} {repeated : List WriteCall} {last : WriteCall}
    (asks : Outlet.Asks seen o repeated last o') :
    ∃ call more, repeated ++ [last] = call :: more ∧ call.offer = seen := by
  cases asks with
  | settled => exact ⟨_, [], rfl, rfl⟩
  | again => exact ⟨_, _, rfl, rfl⟩

namespace Attempt

/-- The calls of one attempt come before those that the other one adds to them, and if the other one has
failed since then it has failed with a part. -/
structure Extends (a b : Attempt) : Prop where
  calls : a.calls <+: b.calls
  failure : b.failure = a.failure ∨ ∃ part cause, b.failure = some (.transportFailed part cause)

variable {a b c : Attempt} {next : Attempt → Attempt}

/-- An attempt is extended by one with the same calls and the same outcome. -/
lemma Extends.same (calls : b.calls = a.calls) (failure : b.failure = a.failure) : a.Extends b :=
  ⟨calls ▸ List.prefix_rfl, .inl failure⟩

/-- What extends an extension extends the attempt itself. -/
lemma Extends.trans (first : a.Extends b) (second : b.Extends c) : a.Extends c := by
  refine ⟨first.calls.trans second.calls, ?_⟩
  rcases second.failure with same | failed
  · rw [same]
    exact first.failure
  · exact .inr failed

/-- A stage that extends every attempt may follow. -/
lemma Extends.andThen (first : a.Extends b) (second : ∀ b : Attempt, b.Extends (next b)) :
    a.Extends (b.andThen next) := by
  rw [Attempt.andThen]
  split
  · exact first
  · exact first.trans (second b)

/-- A write adds its calls behind those that were made. -/
lemma write_extends (a : Attempt) (part : Part) (offer : Offer) (expected : Nat)
    {settle : Attempt → Attempt} (quiet : ∀ b : Attempt, b.Extends (settle b)) :
    a.Extends (a.write part offer expected settle) := by
  rw [write]
  generalize Outlet.callsFor (a.outlet.see offer) a.outlet.replies = made
  obtain ⟨repeated, last, replies⟩ := made
  have longer : a.calls <+: a.calls ++ repeated ++ [last] := by
    rw [List.append_assoc]
    exact List.prefix_append ..
  simp only
  split
  case h_1 =>
    have made : a.Extends
        { a with outlet := { a.outlet with replies }, calls := a.calls ++ repeated ++ [last] } :=
      ⟨longer, .inl rfl⟩
    exact made.trans (quiet _)
  case h_2 failure _ => exact ⟨longer, .inr ⟨part, failure, rfl⟩⟩

/-- Writing the time stamp extends an attempt. -/
lemma stamp_extends (pts : Option Int64) (a : Attempt) : a.Extends (a.stamp pts) := by
  rw [stamp]
  apply write_extends
  intro b
  exact .same rfl rfl

/-- So does writing the planes, packed or not. -/
lemma payload_extends (room : Nat → Bool) (f : Frame) (a : Attempt) : a.Extends (a.payload room f) := by
  have written : a.Extends (if f.isPacked then payloadDirect f a else payloadLaid room f a) := by
    split
    case isTrue =>
      rw [payloadDirect]
      apply write_extends
      intro b
      exact .same rfl rfl
    case isFalse =>
      rcases a.payloadLaid_cases room f with ⟨-, events, refused⟩ | ⟨-, events, written⟩
      · rw [refused]
        exact ⟨List.prefix_rfl, .inr ⟨_, _, rfl⟩⟩
      · rw [written]
        refine .trans ?_ (write_extends _ _ _ _ fun b => ?_)
        · exact .same rfl rfl
        · exact .same rfl rfl
  exact written.andThen fun _ => .same rfl rfl

/-- So does announcing the size, if it has to be announced. -/
lemma announce_extends (size : Size) (a : Attempt) : a.Extends (a.announce size) := by
  rw [announce]
  split
  case isTrue => exact .same rfl rfl
  case isFalse =>
    apply write_extends
    intro b
    exact .same rfl rfl

/-- The first call that is made for an announcement offers it. -/
lemma announce_offers {size : Size} (new : size ≠ a.encoder.announced) :
    ∃ call, call.offer = .single (Wire.encodeSize size) ∧ a.calls ++ [call] <+: (a.announce size).calls := by
  have asks := Outlet.callsFor_asks (a.outlet.see (.single (Wire.encodeSize size))) a.outlet
  rw [announce, if_neg new, write]
  generalize Outlet.callsFor (a.outlet.see (.single (Wire.encodeSize size))) a.outlet.replies = made
    at asks ⊢
  obtain ⟨repeated, last, replies⟩ := made
  obtain ⟨call, more, calls, offer⟩ := Outlet.Asks.first asks
  have seen : a.outlet.see (.single (Wire.encodeSize size)) = .single (Wire.encodeSize size) := by
    rw [Outlet.see]
    split <;> rfl
  have front : a.calls ++ [call] <+: a.calls ++ repeated ++ [last] := by
    rw [List.append_assoc, calls, List.prefix_append_right_inj]
    exact ⟨more, rfl⟩
  refine ⟨call, offer.trans seen, ?_⟩
  simp only
  split
  · exact front
  · exact front

/-- An attempt is settled without a call. -/
lemma settle_extends (a : Attempt) : a.Extends a.settle := by
  rw [settle]
  split
  case h_1 => exact .same rfl rfl
  case h_2 error failed =>
    simp only
    split
    case isTrue => exact .same rfl rfl
    case isFalse => split <;> exact .same rfl rfl

end Attempt

namespace Encoder

variable {e : Encoder}

/-- The stages of a push that follow the announcement. -/
lemma pushWithin_extends (room : Nat → Bool) (f : Frame) (outlet : Outlet) (going : e.stopped = false) :
    (Attempt.announce f.size { encoder := e, outlet }).Extends (e.pushWithin room f outlet) := by
  simp only [pushWithin, going, Bool.false_eq_true, if_false]
  generalize Attempt.announce f.size { encoder := e, outlet } = a
  have announced : a.Extends a := .same rfl rfl
  have stamped := announced.andThen (Attempt.stamp_extends f.pts)
  have sent := stamped.andThen (Attempt.payload_extends room f)
  exact sent.trans (Attempt.settle_extends _)

/-- A push fails because the stream has ended, or with one of the parts of its frame. -/
lemma failure_pushWithin (e : Encoder) (room : Nat → Bool) (f : Frame) (outlet : Outlet) :
    (e.pushWithin room f outlet).failure = none ∨ (e.pushWithin room f outlet).failure = some .stopped ∨
      ∃ part cause, (e.pushWithin room f outlet).failure = some (.transportFailed part cause) := by
  cases going : e.stopped with
  | true => exact .inr (.inl (push_stopped f room outlet going).1)
  | false =>
    have announced := Attempt.announce_extends f.size { encoder := e, outlet }
    have pushed := announced.trans (pushWithin_extends room f outlet going)
    exact pushed.failure.imp_right .inr

/-- A push of a size that is not the one announced last starts with its announcement. -/
lemma pushWithin_announces {f : Frame} (room : Nat → Bool) (outlet : Outlet) (going : e.stopped = false)
    (new : f.size ≠ e.announced) :
    ∃ call more, (e.pushWithin room f outlet).calls = call :: more ∧
      call.offer = .single (Wire.encodeSize f.size) := by
  obtain ⟨call, offer, front⟩ := Attempt.announce_offers (a := { encoder := e, outlet }) new
  obtain ⟨more, calls⟩ := front.trans (pushWithin_extends room f outlet going).calls
  exact ⟨call, more, calls.symm, offer⟩

end Encoder

end PlanarPipe
