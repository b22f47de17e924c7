import PlanarPipe.Proofs.Stream.RoundTrip
import PlanarPipe.Proofs.Wire.Truncation

/-!
# What was acknowledged is delivered, and nothing else

An honest outlet may fail at any byte of a session. Then the reader of what went out finds exactly the
frames whose pushes were acknowledged. Of the frame that failed it finds at most the announcement
(`Remnant.read`), and it is told whether the stream was cut inside a record.
-/

namespace PlanarPipe

open Wire

variable {timing : Timing} {current : Option Size} {lost : List Frame} {part : Bytes} {limit : Nat}

/-- What is left of the frames that were lost is the start of their records. -/
lemma Remnant.isPrefix (remnant : Remnant timing current lost part) :
    part <+: encodeAll (script timing current lost) := by
  cases remnant with
  | nothing => exact List.nil_prefix
  | @part f frames part start =>
    rw [script, encodeAll_append]
    exact start.trans (List.prefix_append ..)

/-- The remnant of a frame is at most its announcement, and the start of another record. -/
lemma Remnant.read (remnant : Remnant timing current lost part)
    (readable : ∀ f ∈ lost, f.Readable limit timing) :
    ∃ records rest, decodeAll part current limit = (records, .more rest) ∧
      (records = [] ∨ ∃ f later, lost = f :: later ∧ records = [.announcement f.size]) := by
  cases remnant with
  | nothing => exact ⟨[], [], decodeAll_nil .., .inl rfl⟩
  | @part f frames part start short =>
    have readable := readable f (List.mem_cons_self ..)
    have wf : WellFormed limit current (f.records timing current) := by
      have alone : WellFormed limit current (script timing current [f]) :=
        script_wellFormed fun g mem => List.mem_singleton.1 mem ▸ readable
      rwa [script, script, List.append_nil] at alone
    obtain ⟨n, rest, read⟩ := decodeAll_of_isPrefix wf (Frame.records_counted readable.held) start
    refine ⟨_, rest, read, ?_⟩
    -- were all records read, what is left would be as long as they are
    have few : n < (f.records timing current).length := by
      rcases Nat.lt_or_ge n (f.records timing current).length with few | all
      · exact few
      · obtain ⟨-, bytes⟩ := decodeAll_sound read
        rw [List.take_of_length_le all] at bytes
        rw [bytes, List.length_append] at short
        omega
    rw [Frame.records] at few ⊢
    split at few
    case isTrue same =>
      obtain rfl : n = 0 := Nat.lt_one_iff.1 few
      exact .inl rfl
    case isFalse differ =>
      rw [if_neg differ]
      cases n with
      | zero => exact .inl rfl
      | succ n =>
        obtain rfl : n = 0 := Nat.lt_one_iff.1 (Nat.lt_of_succ_lt_succ few)
        exact .inr ⟨f, frames, rfl, rfl⟩

/-- The frames that were delivered are read before what is left of the others. -/
lemma Remnant.read_after {delivered : List Frame}
    (remnant : Remnant timing (sizeAfterAll none (script timing none delivered)) lost part)
    (readable : ∀ f ∈ delivered ++ lost, f.Readable limit timing) :
    ∃ records rest,
      decodeAll (encodeAll (transcript timing delivered) ++ part) none limit =
        (transcript timing delivered ++ records, .more rest) ∧
      (records = [] ∨ ∃ f later, lost = f :: later ∧ records = [.announcement f.size]) := by
  have first : ∀ f ∈ delivered, f.Readable limit timing := fun f mem =>
    readable f (List.mem_append_left _ mem)
  obtain ⟨records, rest, read, last⟩ := remnant.read fun f mem =>
    readable f (List.mem_append_right _ mem)
  refine ⟨records, rest, ?_, last⟩
  rw [transcript_eq, decodeAll_encodeAll (script_wellFormed first)
    (script_counted fun f mem => (first f mem).held), read]

namespace Receiver

/-- However an honest outlet behaves and whatever room there is, the acknowledged frames of a session
come before those that are lost. What goes out is the start of what a full session sends: all records of
the acknowledged frames, and not all records of the frame that failed. A reader that takes every frame
of the session finds the pictures of the acknowledged frames, after which at most an announcement
follows, and is told the end of the stream if it is between two records and else an error. -/
theorem delivers_what_was_acknowledged (timing : Timing) (frames : List Frame) (room : Nat → Bool)
    (outlet : Outlet) (held : ∀ f ∈ frames, f.Addressable)
    (honest : ∀ a ∈ session timing room outlet frames, a.Honest) :
    let attempts := session timing room outlet frames
    ∃ delivered lost,
      frames = delivered ++ lost ∧
      attempts.map (fun a => a.failure.isNone) =
        List.replicate delivered.length true ++ List.replicate lost.length false ∧
      sent attempts <+: sent (fullSession timing frames) ∧
      encodeAll (transcript timing delivered) <+: sent attempts ∧
      (∀ f later, lost = f :: later →
        ¬encodeAll (transcript timing (delivered ++ [f])) <+: sent attempts) ∧
      ∀ limit source, source.Steady → source.data = sent attempts →
        (∀ f ∈ frames, f.size.frameBytes ≤ limit ∧ ¬Tagged (timing.stamp f.pts)) →
        let (records, ending, _) := (start source limit).records
        let whole := ∃ n, sent attempts = encodeAll ((transcript timing frames).take n)
        records.filterMap Record.picture? = delivered.map (Frame.picture timing) ∧
          (records = transcript timing delivered ∨
            ∃ f later, lost = f :: later ∧
              records = transcript timing delivered ++ [.announcement f.size]) ∧
          (whole → ending = none) ∧ (¬whole → ending = some (.failed .ended)) := by
  intro attempts
  have delivers : Delivers timing none frames attempts :=
    Encoder.pushAll_delivers (.start timing) room outlet held rfl
  obtain ⟨delivered, lost, part, rfl, outcome, bytes, remnant⟩ := delivers.split honest
  have full : sent (fullSession timing (delivered ++ lost)) =
      encodeAll (transcript timing (delivered ++ lost)) := sent_fullSession timing held
  have start : sent attempts <+: encodeAll (transcript timing (delivered ++ lost)) := by
    rw [bytes, transcript_eq, script_append, encodeAll_append, List.prefix_append_right_inj]
    exact remnant.isPrefix
  rw [← transcript_eq] at bytes
  refine ⟨delivered, lost, rfl, outcome, ?_, ?_, ?_, ?_⟩
  · rwa [full]
  · rw [bytes]
    exact List.prefix_append ..
  -- were all records of the failed frame sent, the remnant would be as long as they are
  · rintro f later rfl all
    cases remnant with
    | part _ short =>
      have long := all.length_le
      rw [bytes, transcript_eq, transcript_eq, script_append, encodeAll_append, List.length_append,
        List.length_append, script, script, List.append_nil] at long
      omega
  · intro limit source steady handed readable
    have readable : ∀ f ∈ delivered ++ lost, f.Readable limit timing := fun f mem =>
      ⟨held f mem, (readable f mem).1, (readable f mem).2⟩
    obtain ⟨records, rest, read, last⟩ := remnant.read_after readable
    rw [← bytes] at read
    rw [transcript_eq] at start
    -- what was sent ends between two records just if the decoder leaves nothing over
    have boundary := boundary_iff (script_wellFormed readable) (script_counted held) start read
    rw [← transcript_eq] at boundary
    obtain ⟨found, told⟩ := records_of_decodeAll steady (handed ▸ read)
    generalize (Receiver.start source limit).records = result at found told ⊢
    obtain ⟨_, ending, final⟩ := result
    obtain rfl := found
    obtain rfl := told
    refine ⟨?_, ?_, ?_, ?_⟩
    · rw [List.filterMap_append, pictures_transcript]
      rcases last with rfl | ⟨f, later, -, rfl⟩ <;> simp [Record.picture?]
    · rcases last with rfl | ⟨f, later, first, rfl⟩
      · exact .inl (List.append_nil _)
      · exact .inr ⟨f, later, first, rfl⟩
    · intro whole
      obtain rfl := boundary.2 whole
      rfl
    · intro inside
      cases rest with
      | nil => exact absurd (boundary.1 rfl) inside
      | cons => rfl

/-- An outlet that takes one frame and the announcement of the next, and then five bytes of eight. -/
def shortOutlet : Outlet :=
  ⟨true, [.failure (.bare .interrupted), .all, .all, .all, .all, .count 5]⟩

/-- Of three frames the first is acknowledged, and the reader is told that the stream was cut. -/
theorem delivers_what_was_acknowledged_short :
    let attempts := session ntscTiming Encoder.plenty shortOutlet [paddedFrame, flatFrame, flatFrame]
    let (records, ending, _) := (start (trickle (sent attempts)) standardLimit).records
    (∀ a ∈ attempts, a.Honest) ∧
      records.filterMap Record.picture? = [⟨-33367, ⟨2, 2⟩, [1, 2, 3, 4, 5, 6]⟩] ∧
      ending = some (.failed .ended) := by
  intro attempts
  have honest : ∀ a ∈ attempts, a.Honest := by decide
  obtain ⟨delivered, lost, whole, outcome, -, -, -, reads⟩ :=
    delivers_what_was_acknowledged ntscTiming [paddedFrame, flatFrame, flatFrame] Encoder.plenty
      shortOutlet (by decide) honest
  obtain ⟨pictures, -, -, ending⟩ := reads standardLimit (trickle (sent attempts)) (steady_trickle _)
    (data_trickle _) (by decide)
  have one : delivered.length = 1 := by
    have acknowledged := congrArg (List.count true) outcome
    rw [List.count_append, List.count_replicate_self, List.count_replicate] at acknowledged
    exact acknowledged.symm
  have first : delivered = [paddedFrame] := by
    have front := congrArg (List.take 1) whole
    rw [List.take_left' one] at front
    exact front.symm
  have inside : ¬∃ n, sent attempts =
      encodeAll ((transcript ntscTiming [paddedFrame, flatFrame, flatFrame]).take n) := by
    rintro ⟨n, cut⟩
    rw [List.take_eq_take_min] at cut
    have unequal : ∀ m ≤ 5, sent attempts ≠
        encodeAll ((transcript ntscTiming [paddedFrame, flatFrame, flatFrame]).take m) := by decide
    exact unequal _ (Nat.min_le_right n 5) cut
  refine ⟨honest, ?_, ending inside⟩
  rw [pictures, first]
  decide

end Receiver

end PlanarPipe
