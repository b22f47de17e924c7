import PlanarPipe.Proofs.Stream.Reading
import PlanarPipe.Proofs.Stream.Session

/-!
# What was pushed is read back

The two halves of a stream meet at the transcript of the session: its encoding is what is sent where
nothing fails (`sent_fullSession`), and a reader takes it apart again, however it is handed out, unless a
time stamp looks like the start of an announcement.
-/

namespace PlanarPipe.Receiver

open Wire

/-- A reading ends without an error exactly where nothing is left. -/
lemma endingOf_eq_none {ending : Ending} : endingOf ending = none ↔ ending = .more [] := by
  cases ending with
  | more rest =>
    cases rest with
    | nil => exact ⟨fun _ => rfl, fun _ => rfl⟩
    | cons => exact ⟨nofun, nofun⟩
  | malformed => exact ⟨nofun, nofun⟩
  | unaddressable => exact ⟨nofun, nofun⟩

/-- A fresh receiver has all of its source to read. -/
lemma remaining_start (source : Source) (limit : Nat) :
    (start source limit).remaining = source.data := by
  rw [remaining, start, Backlog.toList_empty, List.nil_append]

/-- From a steady source a fresh receiver reads what is read of all bytes at once. -/
lemma records_of_decodeAll {source : Source} {limit : Nat} {records : List Record} {ending : Ending}
    (steady : source.Steady) (read : decodeAll source.data none limit = (records, ending)) :
    (start source limit).records.1 = records ∧
      (start source limit).records.2.1 = endingOf ending := by
  obtain ⟨found, told⟩ := records_of_steady (start source limit) steady
  rw [remaining_start] at found told
  exact ⟨found.trans (congrArg Prod.fst read), told.trans (congrArg (endingOf ∘ Prod.snd) read)⟩

/-- A byte string that is handed out as it is, is read as it is. -/
lemma records_ofBytes (data : Bytes) (limit : Nat) :
    (start (.ofBytes data) limit).records.1 = (decodeAll data none limit).1 ∧
      (start (.ofBytes data) limit).records.2.1 = endingOf (decodeAll data none limit).2 := by
  by_cases silent : data = []
  · subst silent
    -- a delivery of no bytes is the end of the stream, so this source is not a steady one
    have ended : (start (.ofBytes []) limit).nextRecord =
        (.failed .ended, { start (.ofBytes []) limit with source := ⟨[], 1⟩ }) := by
      rw [nextRecord_eq]
      rfl
    rw [records_eq, next?_of_ended ended, decodeAll_nil]
    exact ⟨rfl, rfl⟩
  · have whole : (Source.ofBytes data).data = data := List.append_nil data
    have steady : (Source.ofBytes data).Steady := by
      intro d mem
      obtain rfl := List.mem_singleton.1 mem
      exact silent
    exact records_of_decodeAll steady (congrArg (decodeAll · none limit) whole)

/-- A session of frames that memory holds is acknowledged by an outlet that takes everything. A reader
whose limit they keep, given what was sent in any pieces and with any interruptions, reads the
transcript of the session and then its end exactly if no time stamp starts with the tag of an
announcement. In the transcript each picture has the rows of the frame's planes in their place. -/
theorem reads_back_pushed_frames (timing : Timing) (frames : List Frame) (limit : Nat)
    (source : Source) (held : ∀ f ∈ frames, f.Addressable)
    (within : ∀ f ∈ frames, f.size.frameBytes ≤ limit) (steady : source.Steady)
    (whole : source.data = sent (fullSession timing frames)) :
    (∀ a ∈ fullSession timing frames, a.failure = none) ∧
      (∀ f ∈ frames, ∀ c, (f.picture timing).plane c = (f.rows c).flatten) ∧
      ((start source limit).records.1 = transcript timing frames ∧
          (start source limit).records.2.1 = none ↔
        ∀ f ∈ frames, ¬Tagged (timing.stamp f.pts)) := by
  have bytes := whole.trans (sent_fullSession timing held)
  refine ⟨fun a mem => (fullSession_acknowledged timing held a mem).1, fun f mem c => ?_, ?_, ?_⟩
  · exact Frame.plane_pixels (held f mem) _ c
  · rintro ⟨all, finish⟩ f mem
    obtain ⟨found, told⟩ := records_of_decodeAll steady (Prod.eta _).symm
    rw [all] at found
    rw [finish, eq_comm, endingOf_eq_none] at told
    have sound := decodeAll_sound (Prod.ext found.symm told)
    -- a reading to the end is sound, and no picture in it may start with the tag
    have sent : Record.picture (f.picture timing) ∈ transcript timing frames := by
      rw [transcript_eq]
      exact picture_mem_script mem
    exact sound.1.untagged sent
  · intro untagged
    have wf : WellFormed limit none (script timing none frames) :=
      script_wellFormed fun f mem => ⟨held f mem, within f mem, untagged f mem⟩
    have read := decodeAll_encodeAll wf (script_counted held) []
    rw [List.append_nil, decodeAll_nil, List.append_nil, ← transcript_eq] at read
    exact records_of_decodeAll steady (bytes ▸ read)

/-- Two by two pixels, the luma rows padded with one byte, one tick before zero. -/
def paddedFrame : Frame where
  size := ⟨2, 2⟩
  plane := Plane.select ⟨[1, 2, 0xEE, 3, 4], 3⟩ ⟨[5], 1⟩ ⟨[6], 1⟩
  pts := some (-1)
  size_ne := by decide
  fits := fun c => by cases c <;> decide

/-- Three pixels in a row without padding: the chroma planes are empty. -/
def flatFrame : Frame where
  size := ⟨3, 1⟩
  plane := Plane.select ⟨[7, 8, 9], 3⟩ ⟨[], 1⟩ ⟨[], 1⟩
  pts := none
  size_ne := by decide
  fits := fun c => by cases c <;> decide

/-- Thirty frames in 1.001 seconds, to the nearest microsecond. -/
def ntscTiming : Timing where
  base := ⟨1001, 30000, by decide, by decide⟩
  rounding := .nearest

/-- A source that hands out one byte at a time, after an interruption. -/
def trickle (data : Bytes) : Source where
  deliveries := .failure (.bare .interrupted) :: data.map fun b => .bytes [b]

/-- One byte at a time is steady. -/
lemma steady_trickle (data : Bytes) : (trickle data).Steady := by
  intro d mem
  cases mem with
  | head => rfl
  | tail _ mem =>
    obtain ⟨b, -, rfl⟩ := List.mem_map.1 mem
    exact List.cons_ne_nil b []

/-- All the bytes come out in the end. -/
lemma data_trickle (data : Bytes) : (trickle data).data = data := by
  rw [Source.data, trickle, List.flatMap_cons, List.flatMap_map]
  simp [Source.bytesOf]

/-- A padded frame, two without chroma, and the first one again. -/
theorem reads_back_pushed_frames_padded :
    let source := trickle
      (sent (fullSession ntscTiming [paddedFrame, flatFrame, flatFrame, paddedFrame]))
    source.Steady ∧
      (start source standardLimit).records.1 =
        [.announcement ⟨2, 2⟩, .picture ⟨-33367, ⟨2, 2⟩, [1, 2, 3, 4, 5, 6]⟩,
          .announcement ⟨3, 1⟩, .picture ⟨0, ⟨3, 1⟩, [7, 8, 9]⟩, .picture ⟨0, ⟨3, 1⟩, [7, 8, 9]⟩,
          .announcement ⟨2, 2⟩, .picture ⟨-33367, ⟨2, 2⟩, [1, 2, 3, 4, 5, 6]⟩] ∧
      (start source standardLimit).records.2.1 = none := by
  have steady := steady_trickle
    (sent (fullSession ntscTiming [paddedFrame, flatFrame, flatFrame, paddedFrame]))
  have back := reads_back_pushed_frames ntscTiming [paddedFrame, flatFrame, flatFrame, paddedFrame]
    standardLimit _ (by decide) (by decide) steady (data_trickle _)
  obtain ⟨records, ending⟩ := back.2.2.2 (by decide)
  refine ⟨steady, ?_, ending⟩
  rw [records]
  decide

end PlanarPipe.Receiver
