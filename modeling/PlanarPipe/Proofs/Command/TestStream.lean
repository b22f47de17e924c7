import Mathlib.Algebra.Order.Floor.Div
import PlanarPipe.Proofs.Command.Sending
import PlanarPipe.Proofs.Stream.RoundTrip
import PlanarPipe.Proofs.Video.Rescaling

/-!
# The test stream

What the command that streams the test pattern sends to a reader that takes everything is told frame by frame
(`StreamTask.recordsAt`): its size is announced before the first frame and at the end of each run of frames of
one size, and then follow its time stamp and its samples. Main statement: `StreamTask.Valid.run_sends_pattern`.
The padding of the planes, by which the encoder decides in which way it writes them, does not show.
-/

namespace PlanarPipe

open Wire

/-- How many of the first numbers are multiples of another one. -/
lemma countP_range_dvd {n : Nat} (positive : 0 < n) (count : Nat) :
    (List.range count).countP (fun i => n ∣ i) = count ⌈/⌉ n := by
  induction count with
  | zero =>
    rw [Nat.ceilDiv_eq_add_pred_div, Nat.zero_add, Nat.div_eq_of_lt (by omega)]
    rfl
  | succ count ih =>
    have next : count + 1 + n - 1 = count + n - 1 + 1 := by omega
    have last : count + n - 1 + 1 = count + n := by omega
    rw [List.range_succ, List.countP_append, ih, List.countP_singleton, Nat.ceilDiv_eq_add_pred_div,
      Nat.ceilDiv_eq_add_pred_div, next, Nat.succ_div, last]
    simp only [decide_eq_true_eq, Nat.dvd_add_self_right]

namespace StreamTask

variable {task : StreamTask}

/-- The size of a frame is announced before it. -/
def Announces (task : StreamTask) (index : Nat) : Prop :=
  index = 0 ∨ task.size ≠ ⟨1, 1⟩ ∧ ∃ n, task.resizeEvery = some n ∧ n.toNat ∣ index

instance (task : StreamTask) : DecidablePred task.Announces := fun index =>
  decidable_of_iff
    (index = 0 ∨ task.size ≠ ⟨1, 1⟩ ∧ (task.resizeEvery.any fun n => n.toNat ∣ index) = true)
    (by simp only [Announces, Option.any_eq_true, decide_eq_true_eq])

/-- The time stamp of a frame, in whole microseconds from the first one. -/
def due (task : StreamTask) (index : Nat) : Int64 :=
  if task.noPts then 0 else .ofInt (min (index * 1000000 / task.fps.toInt) Int64.maxValue.toInt)

def pictureAt (task : StreamTask) (index : Nat) : Picture where
  stamp := task.due index
  size := task.sizeAt index
  payload := Pattern.samples (task.sizeAt index) (UInt64.ofNat index)

def recordsAt (task : StreamTask) (index : Nat) : List Record :=
  if task.Announces index then [.announcement (task.sizeAt index), .picture (task.pictureAt index)]
  else [.picture (task.pictureAt index)]

/-- The records of all frames. -/
def records (task : StreamTask) : List Record := (List.range task.frames).flatMap task.recordsAt

/-- The size announced last before a frame. -/
def sizeBefore (task : StreamTask) : Nat → Option Size
  | 0 => none
  | index + 1 => some (task.sizeAt index)

/-- There is a picture for each frame, in order. -/
lemma pictures_records : task.records.filterMap Record.picture? = (List.range task.frames).map task.pictureAt := by
  rw [records]
  induction List.range task.frames with
  | nil => rfl
  | cons index indices ih =>
    rw [List.flatMap_cons, List.filterMap_append, ih, recordsAt]
    split <;> rfl

/-- There is an announcement for each frame that has one before it. -/
lemma announcements_records :
    task.records.countP (fun r => r.picture?.isNone) = (List.range task.frames).countP task.Announces := by
  rw [records]
  induction List.range task.frames with
  | nil => rfl
  | cons index indices ih =>
    rw [List.flatMap_cons, List.countP_append, ih, recordsAt, List.countP_cons, Nat.add_comm]
    split
    case isTrue new => simp [new, Record.picture?]
    case isFalse same => simp [same, Record.picture?]

namespace Valid

variable (valid : task.Valid)

include valid

/-- A frame has an announcement before it exactly if its size is not that of the frame before. -/
lemma announces_iff {index : Nat} (small : index < UInt64.size) :
    task.sizeBefore index ≠ some (task.sizeAt index) ↔ task.Announces index := by
  cases index with
  | zero => exact iff_of_true (Option.some_ne_none _).symm (.inl rfl)
  | succ index =>
    rw [sizeBefore, ne_eq, Option.some.injEq, sizeAt, sizeAt, ← ne_eq, Pattern.sizeAt_succ_iff valid.pixels small,
      Announces, or_iff_right (Nat.succ_ne_zero index)]
    constructor
    · rintro ⟨larger, n, every, -, turn⟩
      exact ⟨larger, n, every, turn⟩
    · rintro ⟨larger, n, every, turn⟩
      exact ⟨larger, n, every, fun zero => valid.runs (zero ▸ every), turn⟩

/-- A frame takes one tick, so that its number is rescaled. -/
lemma stamp_pts {index : Nat} (small : index < 2 ^ 63) : valid.timing.stamp (task.pts index) = task.due index := by
  rw [pts, due]
  cases task.noPts with
  | true => rfl
  | false => exact valid.timing.base.micros_rate rfl small

/-- A frame is written as the records of its number. -/
lemma records_frame {index : Nat} (small : index < 2 ^ 63) :
    (valid.frame index).records valid.timing (task.sizeBefore index) = task.recordsAt index := by
  have picture : (valid.frame index).picture valid.timing = task.pictureAt index := by
    rw [Frame.picture, pictureAt, frame, Pattern.pixels_frame, ← valid.stamp_pts small]
    rfl
  have announces := valid.announces_iff (Nat.lt_trans small (by decide))
  rw [Frame.records, recordsAt, picture, show (valid.frame index).size = task.sizeAt index from rfl]
  by_cases same : task.sizeBefore index = some (task.sizeAt index)
  · rw [if_pos same, if_neg (mt announces.2 (not_not.2 same))]
  · rw [if_neg same, if_pos (announces.1 same)]

/-- The frames of the command are written as the records of the test stream. -/
lemma script_framesFrom {index count : Nat} (few : index + count ≤ 2 ^ 63) :
    script valid.timing (task.sizeBefore index) (valid.framesFrom index count) =
      (List.range' index count).flatMap task.recordsAt := by
  induction count generalizing index with
  | zero => rfl
  | succ count ih =>
    have later := @ih (index + 1) (by omega)
    rw [framesFrom_succ, script, valid.records_frame (by omega), List.range'_succ, List.flatMap_cons, ← later]
    rfl

/-- The records of the test stream are those of its frames. -/
lemma records_eq_script (few : task.frames ≤ 2 ^ 63) :
    task.records = script valid.timing none (valid.framesFrom 0 task.frames) := by
  rw [records, List.range_eq_range']
  exact (@script_framesFrom _ valid 0 _ (by omega)).symm

/-- A reader that takes everything gets the records of the test stream. -/
lemma sent_eq {arrival : Arrival} {t : FileTree} {patience : Nat} (format : Format) (output : Output)
    (finite : 1 ≤ task.frames) (few : task.frames ≤ 2 ^ 63) (patient : task.frames ≤ patience)
    (opens : ((Owner.start task.path Owner.standardMode).openFifo arrival t).failure = none) :
    (task.run format output arrival .unlimited patience t).sent = encodeAll task.records := by
  obtain ⟨sends, events, ended⟩ := valid.run_sends format output .unlimited patience opens
  have all := (sends.conclude task format output
    ((Owner.start task.path Owner.standardMode).openFifo arrival t).tree).1
  rw [Run.sent, ended, all, List.flatMap_assoc, length_patient finite patient, valid.records_eq_script few,
    ← transcript_eq]
  exact sent_fullSession valid.timing (valid.framesFrom_addressable 0 task.frames)

/-- The records of the test stream are read back. -/
lemma decodeAll_records {limit : Nat} (few : task.frames ≤ 2 ^ 63) (within : task.size.frameBytes ≤ limit)
    (untagged : ∀ index < task.frames, ¬Tagged (task.due index)) :
    decodeAll (encodeAll task.records) none limit = (task.records, .more []) := by
  have readable : ∀ f ∈ valid.framesFrom 0 task.frames, f.Readable limit valid.timing := by
    intro f mem
    obtain ⟨index, inside, rfl⟩ := List.mem_map.1 mem
    rw [← List.range_eq_range', List.mem_range] at inside
    refine ⟨valid.frame_addressable index, ?_, ?_⟩
    · exact (Pattern.sizeAt_within valid.pixels _ _).frameBytes_le.trans within
    · rw [show (valid.frame index).pts = task.pts index from rfl, valid.stamp_pts (by omega)]
      exact untagged index inside
  rw [valid.records_eq_script few]
  have read := decodeAll_encodeAll (@script_wellFormed _ none _ _ readable)
    (script_counted fun f mem => (readable f mem).held) []
  rwa [List.append_nil, decodeAll_nil, List.append_nil] at read

/-- The size is announced once if there is no other size, and else before each run of frames. -/
lemma countP_announces (finite : 1 ≤ task.frames) :
    (List.range task.frames).countP task.Announces =
      if task.size = ⟨1, 1⟩ then 1 else task.resizeEvery.elim 1 fun n => task.frames ⌈/⌉ n.toNat := by
  have first : (List.range task.frames).countP (fun index => index = 0) = 1 := by
    change (List.range task.frames).count 0 = 1
    exact List.count_range.trans (if_pos finite)
  split
  case isTrue single =>
    simp only [Announces, single, ne_eq, not_true_eq_false, false_and, or_false]
    exact first
  case isFalse larger =>
    cases every : task.resizeEvery with
    | none =>
      simp only [Announces, every, reduceCtorEq, false_and, exists_false, and_false, or_false]
      exact first
    | some n =>
      have positive : 0 < n.toNat := by
        rw [Nat.pos_iff_ne_zero]
        exact fun zero => valid.runs (every.trans (congrArg some (UInt64.toNat_inj.1 zero)))
      -- a size of more than one pixel changes with every turn, so each turn announces
      have turns : ∀ index, task.Announces index ↔ n.toNat ∣ index := by
        intro index
        rw [Announces, every]
        constructor
        · rintro (rfl | ⟨-, _, ⟨⟩, turn⟩)
          · exact Nat.dvd_zero _
          · exact turn
        · exact fun turn => .inr ⟨larger, n, rfl, turn⟩
      simp only [turns]
      exact countP_range_dvd positive task.frames

/-- A command that is not interrupted, and whose reader takes everything, sends the records of the test
stream, so that it makes no difference how its planes are padded. The pictures in them have the sizes, time
stamps and samples of the test pattern, in order. Their size is announced before the first of them and, if it
is to change and is not that of a single pixel, before each picture whose number is a multiple of the length of
a run. A reader whose limit is not below the size asked for reads just these records, however they are handed
out, unless a time stamp looks like the start of an announcement. -/
theorem run_sends_pattern {arrival : Arrival} {t : FileTree} {patience : Nat} (format : Format) (output : Output)
    (finite : 1 ≤ task.frames) (few : task.frames ≤ 2 ^ 63) (patient : task.frames ≤ patience)
    (opens : ((Owner.start task.path Owner.standardMode).openFifo arrival t).failure = none) :
    let sent := (task.run format output arrival .unlimited patience t).sent
    sent = encodeAll task.records ∧
      (∀ pad, let padded := { task with pad }
        padded.Valid → (padded.run format output arrival .unlimited patience t).sent = sent) ∧
      task.records.filterMap Record.picture? = (List.range task.frames).map task.pictureAt ∧
      task.records.countP (fun r => r.picture?.isNone) =
        (if task.size = ⟨1, 1⟩ then 1 else task.resizeEvery.elim 1 fun n => task.frames ⌈/⌉ n.toNat) ∧
      ∀ limit, task.size.frameBytes ≤ limit → (∀ index < task.frames, ¬Tagged (task.due index)) →
        decodeAll sent none limit = (task.records, .more []) ∧
        ∀ source : Source, source.Steady → source.data = sent →
          (Receiver.start source limit).records.1 = task.records ∧
            (Receiver.start source limit).records.2.1 = none := by
  intro sent
  have whole := valid.sent_eq format output finite few patient opens
  refine ⟨whole, ?_, pictures_records, ?_, ?_⟩
  · intro pad padded valid
    exact (valid.sent_eq format output finite few patient opens).trans whole.symm
  · rw [announcements_records, valid.countP_announces finite]
  · intro limit within untagged
    have decodes : decodeAll sent none limit = (task.records, .more []) :=
      (congrArg (decodeAll · none limit) whole).trans (valid.decodeAll_records few within untagged)
    refine ⟨decodes, fun source steady handed => ?_⟩
    exact Receiver.records_of_decodeAll steady (handed ▸ decodes)

end Valid

/-- The third frame is the first of another run, and has one pixel. -/
theorem run_sends_pattern_resized :
    let sent := (threeFrames.run .json .healthy { inode := 0 } .unlimited 3 {}).sent
    decodeAll sent none standardLimit =
        ([.announcement ⟨3, 2⟩, .picture ⟨0, ⟨3, 2⟩, [0, 1, 2, 1, 2, 3, 128, 128]⟩,
          .picture ⟨33333, ⟨3, 2⟩, [2, 3, 4, 3, 4, 5, 128, 128]⟩,
          .announcement ⟨1, 1⟩, .picture ⟨66666, ⟨1, 1⟩, [4]⟩], .more []) ∧
      ({ threeFrames with pad := 0 }.run .json .healthy { inode := 0 } .unlimited 3 {}).sent = sent := by
  intro sent
  obtain ⟨-, padded, -, -, decodes⟩ := valid_threeFrames.run_sends_pattern (t := {}) .json .healthy
    (by decide) (by decide) (Nat.le_refl 3) (by rfl : ((Owner.start _ _).openFifo { inode := 0 } _).failure = none)
  refine ⟨?_, padded 0 ⟨by decide, by decide, by decide, by decide, by decide⟩⟩
  exact (decodes standardLimit (by decide) (by decide)).1.trans (by decide)

end StreamTask

end PlanarPipe
