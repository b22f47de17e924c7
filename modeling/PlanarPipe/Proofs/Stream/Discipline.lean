import PlanarPipe.Proofs.Stream.RoundTrip

/-!
# The discipline of a writer

Whatever an outlet answers, a stream is written with one call for each part of each frame, made again
only after an interruption (`Performs`). The first call that does not take its part whole is the last
one of the stream: `Disciplined` lists the pushes of a stream, and `Disciplined.silence` tells that no
call is made after a failure.
-/

namespace PlanarPipe

/-- The pushes of a stream, one for each frame: as long as none has failed each makes the calls for the
parts of its frame, and after that no calls are made. -/
inductive Disciplined (timing : Timing) (room : Nat → Bool) :
    Encoder → Outlet → List Frame → List Attempt → Prop where
  | done {e o} :
    Disciplined timing room e o [] []
  | going {e o f frames a attempts} :
    e.stopped = false →
    Performs (f.offer timing) (f.bar room e.scratch.size) o (f.parts e.announced)
      a.calls a.failure a.outlet →
    a.encoder.stopped = a.failure.isSome →
    Disciplined timing room a.encoder a.outlet frames attempts →
    Disciplined timing room e o (f :: frames) (a :: attempts)
  | silent {e o f frames a attempts} :
    e.stopped = true →
    a.calls = [] →
    a.failure = some .stopped →
    a.encoder = e →
    a.outlet = o →
    Disciplined timing room e o frames attempts →
    Disciplined timing room e o (f :: frames) (a :: attempts)

namespace Frame

variable {f : Frame}

/-- The planes of a packed frame are offered as three slices with the bytes of the three planes. -/
lemma offer_packed (held : f.Addressable) (timing : Timing)
    (packed : ∀ c, (f.plane c).stride = f.size.rowBytes c) :
    ∃ slices, f.offer timing .payload = .gather slices ∧
      let luma := f.size.width.toNat * f.size.height.toNat
      let chroma := f.size.width.toNat / 2 * (f.size.height.toNat / 2)
      slices.map List.length = [luma, chroma, chroma] := by
  refine ⟨_, by rw [offer, if_pos (isPacked_iff.2 packed)], ?_⟩
  simp only [Channel.all, List.map_cons, List.map_nil, length_flatten_rows held,
    Size.exactPlane_red, Size.exactPlane_blue]
  rfl

/-- The planes of a padded frame are offered as one message with the bytes of the frame. -/
lemma offer_padded (held : f.Addressable) (timing : Timing)
    (padded : ∃ c, (f.plane c).stride ≠ f.size.rowBytes c) :
    ∃ bytes, f.offer timing .payload = .single bytes ∧ bytes.length = f.size.frameBytes := by
  have some : f.isPacked ≠ true := fun packed =>
    padded.elim fun c differ => differ (isPacked_iff.1 packed c)
  refine ⟨f.pixels, by rw [offer, if_neg some], ?_⟩
  rw [length_pixels held, frameBytes_eq held]

end Frame

namespace Disciplined

variable {timing : Timing} {room : Nat → Bool} {e : Encoder} {o : Outlet} {frames : List Frame}
  {attempts : List Attempt}

/-- A stopped encoder makes no call for any of the frames that follow. -/
lemma stopped (disciplined : Disciplined timing room e o frames attempts) (stopped : e.stopped = true) :
    ∀ b ∈ attempts, b.calls = [] ∧ b.failure = some .stopped := by
  induction disciplined with
  | done => exact List.forall_mem_nil _
  | going going =>
    rw [stopped] at going
    cases going
  | silent _ calls failure _ _ _ ih => exact List.forall_mem_cons.2 ⟨⟨calls, failure⟩, ih stopped⟩

/-- After a failure no call is made. -/
lemma silence {a : Attempt} {before after : List Attempt}
    (disciplined : Disciplined timing room e o frames attempts) (split : attempts = before ++ a :: after)
    (failed : a.failure ≠ none) :
    ∀ b ∈ after, b.calls = [] ∧ b.failure = some .stopped := by
  induction disciplined generalizing before with
  | done => cases List.nil_eq_append_iff.1 split |>.2
  | going _ _ stopped later ih =>
    cases before with
    | nil =>
      obtain ⟨rfl, rfl⟩ := List.cons.inj split
      rw [Option.isSome_iff_ne_none.2 failed] at stopped
      exact later.stopped stopped
    | cons b before => exact ih (List.cons.inj split).2
  | silent stopped _ _ _ _ later ih =>
    cases before with
    | nil =>
      obtain ⟨rfl, rfl⟩ := List.cons.inj split
      exact later.stopped stopped
    | cons b before => exact ih (List.cons.inj split).2

end Disciplined

namespace Encoder

variable {frames : List Frame}

/-- Every stream of pushes is disciplined, whatever the encoder, the room and the outlet. -/
lemma pushAll_disciplined (e : Encoder) (room : Nat → Bool) (outlet : Outlet)
    (held : ∀ f ∈ frames, f.Addressable) :
    Disciplined e.timing room e outlet frames (e.pushAll room outlet frames) := by
  induction frames generalizing e outlet with
  | nil => exact .done
  | cons f frames ih =>
    obtain ⟨held, later⟩ := List.forall_mem_cons.1 held
    rw [pushAll]
    cases going : e.stopped with
    | false =>
      obtain ⟨performs, books, stopped⟩ := push_performs room outlet held.exact going
      have rest := ih (e.pushWithin room f outlet).encoder (e.pushWithin room f outlet).outlet later
      rw [show (e.pushWithin room f outlet).encoder.timing = e.timing from books.timing] at rest
      exact .going going performs stopped rest
    | true =>
      have rest := ih e outlet later
      simp only [pushWithin, going, if_true]
      exact .silent going rfl rfl rfl rfl rest

/-- Whatever an outlet answers, each push makes one call for each part of its frame, in order and again
only after an interruption, up to the first one that does not take its part whole; that one is what the
push fails with, and after it no call is ever made. An announcement takes 12 bytes and a time stamp
eight. The planes go out in three slices if none of them is padded, and else as one byte string. -/
theorem calls_once_for_each_part (e : Encoder) (room : Nat → Bool) (outlet : Outlet)
    (frames : List Frame) (held : ∀ f ∈ frames, f.Addressable) :
    let attempts := e.pushAll room outlet frames
    Disciplined e.timing room e outlet frames attempts ∧
      (∀ before a after, attempts = before ++ a :: after → a.failure ≠ none →
        ∀ b ∈ after, b.calls = [] ∧ b.failure = some .stopped) ∧
      ∀ f ∈ frames,
        (f.offer e.timing .announcement).lengths = [12] ∧
        (f.offer e.timing .stamp).lengths = [8] ∧
        ((∀ c, (f.plane c).stride = f.size.rowBytes c) →
          ∃ slices, f.offer e.timing .payload = .gather slices ∧
            let luma := f.size.width.toNat * f.size.height.toNat
            let chroma := f.size.width.toNat / 2 * (f.size.height.toNat / 2)
            slices.map List.length = [luma, chroma, chroma]) ∧
        ((∃ c, (f.plane c).stride ≠ f.size.rowBytes c) →
          ∃ bytes, f.offer e.timing .payload = .single bytes ∧ bytes.length = f.size.frameBytes) := by
  intro attempts
  have disciplined := e.pushAll_disciplined room outlet held
  refine ⟨disciplined, fun before a after => disciplined.silence, fun f mem => ?_⟩
  have held := held f mem
  exact ⟨congrArg (· :: []) (Wire.length_encodeSize _), congrArg (· :: []) (Wire.length_encodeStamp _),
    Frame.offer_packed held _, Frame.offer_padded held _⟩

/-- An outlet that is interrupted once, and says in the end that it took more than it was offered. -/
def boastfulOutlet : Outlet :=
  ⟨true, [.all, .failure (.bare .interrupted), .all, .all, .all, .count 9]⟩

/-- The second of three frames fails at its time stamp, and the third one is not written. -/
theorem calls_once_for_each_part_boastful :
    let frames := [Receiver.paddedFrame, Receiver.flatFrame, Receiver.flatFrame]
    let attempts := (start Receiver.ntscTiming).pushAll plenty boastfulOutlet frames
    Disciplined Receiver.ntscTiming plenty (start Receiver.ntscTiming) boastfulOutlet frames attempts ∧
      attempts.map (fun a => a.calls.map fun c => c.offer.lengths) = [[[12], [8], [8], [6]], [[12], [8]], []] ∧
      attempts.map Attempt.failure =
        [none, some (.transportFailed .stamp (.short 9 8)), some .stopped] := by
  intro frames attempts
  obtain ⟨disciplined, -, -⟩ :=
    calls_once_for_each_part (start Receiver.ntscTiming) plenty boastfulOutlet frames (by decide)
  exact ⟨disciplined, by decide, by decide⟩

end Encoder

end PlanarPipe
