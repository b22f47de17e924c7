import PlanarPipe.Command.Program
import PlanarPipe.Proofs.Stream.RoundTrip
import PlanarPipe.Proofs.Wire.Remainder

/-!
# What is read from a pipe, and how it ends

A program that reads a pipe to its end, and prints to somebody who takes all of it, prints the records that
can be read off the front of what was written into the pipe. Its exit code tells what is left of that
(`ReadTask.Ends`). Main statement: `Program.run_tells_ending`. An announcement of a size without pixels is told
like a mistake on the command line, not like the other bytes that are no record
(`Program.run_misreports_empty_size`).
-/

namespace PlanarPipe

open Wire

namespace ReadTask

/-- How a command ends by what is left when no record can be read any more. `current` was announced last. -/
inductive Ends (current : Option Size) (rest : Bytes) : Nat → Prop where
  | clean :
    rest = [] →
    Ends current rest Exit.success
  | cut :
    rest ≠ [] →
    Undecided standardLimit current rest →
    Ends current rest Exit.failure
  /-- A picture before any announcement. -/
  | unknown :
    StartsPicture rest →
    current = none →
    Ends current rest Exit.badData
  | oversize {size} :
    StartsPicture rest →
    current = some size →
    standardLimit < size.exactBytes →
    Ends current rest Exit.badData
  /-- An announcement of a size without pixels. -/
  | empty {size later} :
    rest = encodeSize size ++ later →
    size.isEmpty = true →
    Ends current rest Exit.usage

/-- The exit code of a command that has read to the end, by how the reading ended. -/
def codeOf (ending : Option Reception) : Nat := (finish 0 ending).failure.elim Exit.success (·.code)

/-- What is printed for some records. -/
def printouts (format : Format) (records : List Record) : Bytes :=
  records.flatMap fun r => (Report.record format r).toBytes

variable {current : Option Size} {rest : Bytes} {code : Nat} {task : ReadTask}

/-- The length of a picture up to the standard limit is counted without overflow. -/
lemma standardLimit_counted : standardLimit + stampLength ≤ Bytes.maxWord := by decide

/-- How a reading of what is left ends, if no record can be read. -/
lemma Ends.code_eq (ends : Ends current rest code) :
    codeOf (Receiver.endingOf (decodeAll rest current standardLimit).2) = code := by
  cases ends with
  | clean none =>
    rw [none, decodeAll_nil]
    rfl
  | cut some undecided =>
    obtain ⟨room, more⟩ := (undecided_iff standardLimit_counted).1 undecided
    obtain ⟨b, bytes, rfl⟩ := List.exists_cons_of_ne_nil some
    rw [decodeAll_eq, more]
    rfl
  | unknown start none =>
    rw [decodeAll_eq, (Decodes.unknown start none).eq]
    rfl
  | oversize start known large =>
    have large := (Size.lt_frameBytes_iff (by decide)).2 large
    rw [decodeAll_eq, (Decodes.oversize start known large).eq]
    rfl
  | empty whole none =>
    rw [decodeAll_eq, (Decodes.empty whole none).eq]
    rfl

/-- There is nothing else that can be left. -/
lemma exists_ends (unread : ∀ r left, decode rest current standardLimit ≠ .record r left) :
    ∃ code, Ends current rest code := by
  have decoded := decodes rest current standardLimit
  cases d : decode rest current standardLimit with
  | more room =>
    by_cases none : rest = []
    · exact ⟨_, .clean none⟩
    · exact ⟨_, .cut none ((undecided_iff standardLimit_counted).2 ⟨room, d⟩)⟩
  | record r left => exact absurd d (unread r left)
  | unaddressable => exact absurd d (decode_ne_unaddressable standardLimit_counted)
  | malformed cause left =>
    rw [d] at decoded
    cases decoded with
    | empty whole none => exact ⟨_, .empty whole none⟩
    | unknown start none => exact ⟨_, .unknown start none⟩
    | oversize start known large =>
      exact ⟨_, .oversize start known ((Size.lt_frameBytes_iff (by decide)).1 large)⟩

/-- The exit code is told by what is left, where no record can be read off it. -/
lemma ends_iff (unread : ∀ r left, decode rest current standardLimit ≠ .record r left) :
    codeOf (Receiver.endingOf (decodeAll rest current standardLimit).2) = code ↔ Ends current rest code := by
  constructor
  · rintro rfl
    obtain ⟨code, ends⟩ := exists_ends unread
    rwa [ends.code_eq]
  · exact Ends.code_eq

/-- The code for a mistake on the command line tells exactly that the size next announced has no pixels. -/
lemma ends_usage_iff :
    Ends current rest Exit.usage ↔ ∃ size later, rest = encodeSize size ++ later ∧ size.isEmpty = true := by
  constructor
  · intro ends
    generalize eq : Exit.usage = code at ends
    cases ends with
    | empty whole none => exact ⟨_, _, whole, none⟩
    | clean | cut | unknown | oversize => cases eq
  · rintro ⟨size, later, whole, none⟩
    exact .empty whole none

/-- All records are printed if somebody takes them, and only the end of the stream is told as a failure. -/
lemma relay_healthy (format : Format) (ending : Option Reception) (frames : Nat) (records : List Record) :
    (relay format .healthy none ending frames records).printed = printouts format records ∧
      (relay format .healthy none ending frames records).failure = (finish 0 ending).failure := by
  induction records generalizing frames with
  | nil =>
    rw [relay]
    cases ending with
    | none => exact ⟨rfl, rfl⟩
    | some what => cases what <;> exact ⟨rfl, rfl⟩
  | cons record records ih =>
    cases record with
    | announcement size =>
      obtain ⟨printed, failure⟩ := ih frames
      exact ⟨congrArg (_ ++ ·) printed, failure⟩
    | picture p =>
      obtain ⟨printed, failure⟩ := ih (frames + 1)
      exact ⟨congrArg (_ ++ ·) printed, failure⟩

/-- What is read off a source is printed, if somebody takes it, and the exit code tells how the reading ended. -/
lemma relayFrom_healthy (format : Format) {source : Source} {records : List Record} {ending : Option Reception}
    (all : task.count = none) (found : (Receiver.start source standardLimit).records.1 = records)
    (told : (Receiver.start source standardLimit).records.2.1 = ending) :
    (task.relayFrom format .healthy source).printed = printouts format records ∧
      (task.relayFrom format .healthy source).failure.elim Exit.success (·.code) = codeOf ending := by
  subst found told
  rw [relayFrom, all]
  obtain ⟨printed, failure⟩ := relay_healthy format (Receiver.start source standardLimit).records.2.1 0
    (Receiver.start source standardLimit).records.1
  exact ⟨printed, congrArg (Option.elim · Exit.success (·.code)) failure⟩

end ReadTask

namespace Program

open ReadTask

variable (w : World) (env : List (String × String)) (words : List String) {i : Invocation}
  {task : ReadTask} {now : Nat} {pipe : Fifo}

/-- A program that reads a pipe prints the records of the bytes in it, and ends as their reading does. -/
lemma run_read (asked : Invocation.ofWords env words = .ok i) (reads : i.task = .read task)
    (all : task.count = none) (healthy : w.output = .healthy) (found : task.moment w.scene = .ok now)
    (opens : (w.scene now).openToRead task.path true = .ok (.fifo pipe)) :
    (run w env words).printed =
        printouts (i.formatFor w.terminal) (decodeAll w.inflow none standardLimit).1 ∧
      (run w env words).code = codeOf (Receiver.endingOf (decodeAll w.inflow none standardLimit).2) := by
  obtain ⟨records, told⟩ := Receiver.records_ofBytes w.inflow standardLimit
  have relayed := relayFrom_healthy (i.formatFor w.terminal) all records told
  simp only [run, asked, perform, reads, ReadTask.run, found, PipeEnd.attach, opens, healthy]
  exact relayed

/-- A program that is told to read a pipe without counting, and finds it, prints the records of the longest
well-formed stream at the front of what is written into the pipe, in whatever pieces it is handed out. The
exit code tells what is left of it. It is that of a mistake on the command line exactly where a size without
pixels is announced. -/
theorem run_tells_ending (asked : Invocation.ofWords env words = .ok i) (reads : i.task = .read task)
    (all : task.count = none) (healthy : w.output = .healthy) (found : task.moment w.scene = .ok now)
    (opens : (w.scene now).openToRead task.path true = .ok (.fifo pipe)) :
    let ended := run w env words
    ∃ records rest, Longest standardLimit w.inflow records rest ∧
      ended.printed = printouts (i.formatFor w.terminal) records ∧
      (∀ code, ended.code = code ↔ Ends (sizeAfterAll none records) rest code) ∧
      (ended.code = Exit.usage ↔ ∃ size later, rest = encodeSize size ++ later ∧ size.isEmpty = true) ∧
      ∀ source : Source, source.Steady → source.data = w.inflow →
        let relayed := task.relayFrom (i.formatFor w.terminal) .healthy source
        relayed.printed = ended.printed ∧
          relayed.failure.elim Exit.success (·.code) = ended.code := by
  intro ended
  obtain ⟨records, rest, longest, unread, read⟩ := exists_longest w.inflow standardLimit_counted
  obtain ⟨printed, code⟩ := run_read w env words asked reads all healthy found opens
  rw [read] at printed code
  have tells : ∀ code, ended.code = code ↔ Ends (sizeAfterAll none records) rest code := by
    intro n
    rw [← ends_iff unread, ← code]
  refine ⟨records, rest, longest, printed, tells, (tells _).trans ends_usage_iff, ?_⟩
  intro source steady whole relayed
  have same := Receiver.records_of_decodeAll steady ((congrArg (decodeAll · none standardLimit) whole).trans read)
  obtain ⟨printed', code'⟩ := relayFrom_healthy (i.formatFor w.terminal) all same.1 same.2
  exact ⟨printed'.trans printed.symm, code'.trans code.symm⟩

/-- A pipe stands at `r.fifo`, and this is written into it. -/
def piped (inflow : Bytes) : World :=
  { scene := fun _ => { entries := [(["r.fifo"], .fifo ⟨0, 0, 0o600⟩)], births := 1 }
    inflow
    arrival := { inode := 1 }
    patience := 0
    host := ⟨"", "", ""⟩ }

/-- A picture of one pixel and its announcement come whole, and then two bytes of another announcement. -/
theorem run_tells_ending_cut :
    let ended := run (piped (encodeAll [.announcement ⟨1, 1⟩, .picture ⟨5, ⟨1, 1⟩, [7]⟩] ++ [0x59, 0x55])) []
      ["--format", "raw", "read", "r.fifo"]
    ended.printed = [7] ∧ ended.code = Exit.failure := by
  intro ended
  obtain ⟨records, rest, longest, printed, tells, -⟩ := run_tells_ending
    (piped (encodeAll [.announcement ⟨1, 1⟩, .picture ⟨5, ⟨1, 1⟩, [7]⟩] ++ [0x59, 0x55])) []
    ["--format", "raw", "read", "r.fifo"] rfl rfl rfl rfl rfl rfl
  have wf : WellFormed standardLimit none [.announcement ⟨1, 1⟩, .picture ⟨5, ⟨1, 1⟩, [7]⟩] :=
    .cons (.announcement rfl) (.cons (.picture rfl rfl (by decide) (by decide)) .nil)
  have read := longest.eq_decodeAll standardLimit_counted
  rw [piped, decodeAll_encodeAll wf (wf.counted standardLimit_counted),
    decodeAll_of_unread (by rw [decode_short (by decide)]; nofun), List.append_nil] at read
  subst read
  obtain rfl : [0x59, 0x55] = rest := List.append_cancel_left longest.whole
  exact ⟨printed, (tells _).2 (.cut (by decide) (.short (by decide)))⟩

/-- The announcement of a size without pixels is no record, and ends like a mistake on the command line. A
picture without an announcement is none either, and ends as data that are not in the format. -/
theorem run_misreports_empty_size :
    decode (encodeSize ⟨0, 16⟩) none standardLimit = .malformed (.emptySize ⟨0, 16⟩) [] ∧
      (run (piped (encodeSize ⟨0, 16⟩)) [] ["read", "r.fifo"]).code = Exit.usage ∧
      decode [0, 0, 0, 0] none standardLimit = .malformed .sizeUnknown [0, 0, 0, 0] ∧
      (run (piped [0, 0, 0, 0]) [] ["read", "r.fifo"]).code = Exit.badData ∧
      Exit.usage ≠ Exit.badData := by
  have refused : decode (encodeSize ⟨0, 16⟩) none standardLimit = .malformed (.emptySize ⟨0, 16⟩) [] := by decide
  have unknown : decode [0, 0, 0, 0] none standardLimit = .malformed .sizeUnknown [0, 0, 0, 0] := by decide
  have ends := fun inflow => (run_read (piped inflow) [] ["read", "r.fifo"]
    rfl rfl rfl rfl rfl rfl).2
  refine ⟨refused, ?_, unknown, ?_, by decide⟩
  · rw [ends, piped, decodeAll_eq, refused]
    rfl
  · rw [ends, piped, decodeAll_eq, unknown]
    rfl

end Program

end PlanarPipe
