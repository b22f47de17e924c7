import PlanarPipe.Proofs.Command.Read

/-!
# Reading a given number of pictures

A program that is told to read so many pictures prints the records up to the last of these (`Record.upTo`) and
ends. It looks whether there are enough only when it has printed a picture, so that no number is less than one
for it. Main statement: `Program.run_stops_after_count`; a program that is told to read no picture reads one
(`Program.run_counts_from_one`).
-/

namespace PlanarPipe

open Wire

/-- The pictures among some records, in order. -/
def Record.picturesOf (records : List Record) : List Picture := records.filterMap Record.picture?

/-- The records up to the last of the first `count` pictures, or all of them if there are fewer pictures. -/
def Record.upTo : Nat → List Record → List Record
  | 0, _ => []
  | _ + 1, [] => []
  | count + 1, .announcement size :: later => .announcement size :: upTo (count + 1) later
  | count + 1, .picture p :: later => .picture p :: upTo count later

namespace Record

/-- The records up to a picture come first. -/
lemma upTo_isPrefix (count : Nat) (records : List Record) : upTo count records <+: records := by
  induction records generalizing count with
  | nil => cases count <;> exact List.nil_prefix
  | cons record records ih =>
    cases count with
    | zero => exact List.nil_prefix
    | succ count =>
      cases record with
      | announcement size => exact List.cons_prefix_cons.2 ⟨rfl, ih (count + 1)⟩
      | picture p => exact List.cons_prefix_cons.2 ⟨rfl, ih count⟩

/-- The pictures up to the last of the first `count` are the first `count` pictures. -/
lemma picturesOf_upTo (count : Nat) (records : List Record) :
    picturesOf (upTo count records) = (picturesOf records).take count := by
  induction records generalizing count with
  | nil => cases count <;> rfl
  | cons record records ih =>
    cases count with
    | zero => rfl
    | succ count =>
      cases record with
      | announcement size => exact ih (count + 1)
      | picture p => exact congrArg (p :: ·) (ih count)

/-- Nothing comes after the last picture that is asked for. -/
lemma upTo_ends {count : Nat} {records : List Record} (some : 0 < count)
    (enough : count ≤ (picturesOf records).length) : ∃ before p, upTo count records = before ++ [.picture p] := by
  induction records generalizing count with
  | nil => exact absurd enough (Nat.not_le.2 some)
  | cons record records ih =>
    obtain ⟨count, rfl⟩ := Nat.exists_eq_succ_of_ne_zero some.ne'
    cases record with
    | announcement size =>
      obtain ⟨before, p, ends⟩ := ih some enough
      exact ⟨.announcement size :: before, p, congrArg (_ :: ·) ends⟩
    | picture p =>
      cases count with
      | zero => exact ⟨[], p, by rw [upTo, upTo]; rfl⟩
      | succ count =>
        obtain ⟨before, q, ends⟩ := ih (Nat.succ_pos count) (Nat.le_of_succ_le_succ enough)
        exact ⟨.picture p :: before, q, congrArg (_ :: ·) ends⟩

/-- All records come if there are fewer pictures than are asked for. -/
lemma upTo_all {count : Nat} {records : List Record} (few : (picturesOf records).length < count) :
    upTo count records = records := by
  induction records generalizing count with
  | nil => cases count <;> rfl
  | cons record records ih =>
    obtain ⟨count, rfl⟩ := Nat.exists_eq_succ_of_ne_zero (Nat.ne_zero_of_lt few)
    cases record with
    | announcement size => exact congrArg (_ :: ·) (ih few)
    | picture p => exact congrArg (_ :: ·) (ih (Nat.lt_of_succ_lt_succ few))

end Record

open Record

namespace ReadTask

variable {task : ReadTask}

/-- How many of the pictures that there are a command prints before it ends. -/
def wanted (task : ReadTask) (records : List Record) : Nat :=
  task.count.elim (picturesOf records).length (max 1)

/-- What a command prints of some records. -/
def shown (task : ReadTask) (records : List Record) : List Record :=
  task.count.elim records fun count => upTo (max 1 count) records

/-- As long as pictures are missing, the records up to the last of these are printed. -/
lemma relay_counted (format : Format) (count frames : Nat) (records : List Record)
    (missing : frames < max 1 count) :
    (relay format .healthy (some count) none frames records).printed =
        printouts format (upTo (max 1 count - frames) records) ∧
      (relay format .healthy (some count) none frames records).failure = none := by
  -- `frames` pictures were printed before these records; `missing` keeps the loop from having ended already
  induction records generalizing frames with
  | nil =>
    obtain ⟨left, eq⟩ := Nat.exists_eq_succ_of_ne_zero (Nat.sub_ne_zero_of_lt missing)
    rw [relay, eq]
    exact ⟨rfl, rfl⟩
  | cons record records ih =>
    obtain ⟨left, eq⟩ := Nat.exists_eq_succ_of_ne_zero (Nat.sub_ne_zero_of_lt missing)
    cases record with
    | announcement size =>
      obtain ⟨printed, failure⟩ := ih frames missing
      rw [eq] at printed ⊢
      exact ⟨congrArg (_ ++ ·) printed, failure⟩
    | picture p =>
      have left' : left = max 1 count - (frames + 1) := by omega
      rw [eq, left', relay]
      by_cases enough : count ≤ frames + 1
      -- the count is looked at only after the picture is printed, so that 0 ends the loop where 1 does
      · have last : max 1 count - (frames + 1) = 0 := by omega
        have stops : (some count).any (· ≤ frames + 1) = true := decide_eq_true enough
        rw [last, upTo, upTo]
        simp only [relayOne, Output.print, stops, if_true]
        exact ⟨(List.append_nil _).symm, trivial⟩
      · have goesOn : ¬(some count).any (· ≤ frames + 1) = true := by simpa using enough
        obtain ⟨printed, failure⟩ := ih (frames + 1) (by omega)
        simp only [relayOne, Output.print, goesOn]
        exact ⟨congrArg (_ ++ ·) printed, failure⟩

/-- What is printed of a stream that can be read to its end. -/
lemma relayFrom_shown (task : ReadTask) (format : Format) {source : Source} {records : List Record}
    (found : (Receiver.start source standardLimit).records.1 = records)
    (told : (Receiver.start source standardLimit).records.2.1 = none) :
    (task.relayFrom format .healthy source).printed = printouts format (task.shown records) ∧
      (task.relayFrom format .healthy source).failure = none := by
  simp only [relayFrom, found, told]
  rw [shown]
  cases task.count with
  | none => exact relay_healthy format none 0 records
  | some count => exact relay_counted format count 0 records (by omega)

/-- In raw form the payloads of the pictures are printed, and nothing else. -/
lemma printouts_raw (records : List Record) :
    printouts .raw records = (picturesOf records).flatMap Picture.payload := by
  induction records with
  | nil => rfl
  | cons record records ih =>
    cases record with
    | announcement size => exact ih
    | picture p => exact congrArg (p.payload ++ ·) ih

/-- Some of the records are shown, and nothing that comes after them. -/
lemma shown_isPrefix (records : List Record) : task.shown records <+: records := by
  rw [shown]
  cases task.count with
  | none => exact List.prefix_rfl
  | some count => exact upTo_isPrefix ..

/-- The pictures that are shown are the first of all, as many as are wanted. -/
lemma picturesOf_shown (records : List Record) :
    picturesOf (task.shown records) = (picturesOf records).take (task.wanted records) := by
  rw [shown, wanted]
  cases task.count with
  | none => exact (List.take_length ..).symm
  | some count => exact picturesOf_upTo ..

/-- All records are shown if there are fewer pictures than are asked for. -/
lemma shown_all {records : List Record}
    (few : ∀ count, task.count = some count → (picturesOf records).length < max 1 count) :
    task.shown records = records := by
  rw [shown]
  cases asked : task.count with
  | none => rfl
  | some count => exact upTo_all (few count asked)

/-- Where there are enough pictures, the last record that is shown is a picture. -/
lemma shown_ends {records : List Record} {count : Nat} (asked : task.count = some count)
    (enough : max 1 count ≤ (picturesOf records).length) :
    ∃ before p, task.shown records = before ++ [.picture p] := by
  rw [shown, asked]
  exact upTo_ends (by omega) enough

end ReadTask

namespace Program

open ReadTask

variable (w : World) (env : List (String × String)) (words : List String) {i : Invocation}
  {task : ReadTask} {now : Nat} {pipe : Fifo} {records : List Record}

/-- A program that reads a stream without an error succeeds, and prints what it is to show. -/
lemma run_shown (asked : Invocation.ofWords env words = .ok i) (reads : i.task = .read task)
    (healthy : w.output = .healthy) (found : task.moment w.scene = .ok now)
    (opens : (w.scene now).openToRead task.path true = .ok (.fifo pipe))
    (decodes : decodeAll w.inflow none standardLimit = (records, .more [])) :
    (run w env words).printed = printouts (i.formatFor w.terminal) (task.shown records) ∧
      (run w env words).code = Exit.success := by
  obtain ⟨all, told⟩ := Receiver.records_ofBytes w.inflow standardLimit
  rw [decodes] at all told
  obtain ⟨printed, failure⟩ := task.relayFrom_shown (i.formatFor w.terminal) all told
  simp only [run, asked, perform, reads, ReadTask.run, found, PipeEnd.attach, opens, healthy]
  refine ⟨printed, ?_⟩
  change (task.relayFrom (i.formatFor w.terminal) .healthy (.ofBytes w.inflow)).failure.elim _ _ = _
  rw [failure]
  rfl

/-- A program that is told to read a pipe, and perhaps how many pictures, succeeds if what is written into
the pipe can be read to its end. Without a number it prints all records. Otherwise it stops after the picture
that completes the number, or with the last record if the pictures do not suffice: what it prints is the
front of the stream, with all announcements in it. It prints exactly as many pictures as it is told to, or as
there are, unless it is told to print none and there is one. None of that depends on the pieces in which the
stream is handed out. -/
theorem run_stops_after_count (asked : Invocation.ofWords env words = .ok i) (reads : i.task = .read task)
    (healthy : w.output = .healthy) (found : task.moment w.scene = .ok now)
    (opens : (w.scene now).openToRead task.path true = .ok (.fifo pipe))
    (decodes : decodeAll w.inflow none standardLimit = (records, .more [])) :
    let ended := run w env words
    let format := i.formatFor w.terminal
    let pictures := picturesOf records
    ended.code = Exit.success ∧
    ∃ shown later, records = shown ++ later ∧
      ended.printed = printouts format shown ∧
      picturesOf shown = pictures.take (task.wanted records) ∧
      ((∀ count, task.count = some count → pictures.length < max 1 count) → later = []) ∧
      (∀ count, task.count = some count →
        (max 1 count ≤ pictures.length → ∃ before p, shown = before ++ [.picture p]) ∧
        ((picturesOf shown).length = min count pictures.length ↔ 0 < count ∨ pictures = [])) ∧
      (format = .raw →
        ended.printed = (pictures.take (task.wanted records)).flatMap Picture.payload) ∧
      ∀ source : Source, source.Steady → source.data = w.inflow →
        let relayed := task.relayFrom format .healthy source
        relayed.printed = ended.printed ∧ relayed.failure = none := by
  intro ended format pictures
  obtain ⟨printed, code⟩ := run_shown w env words asked reads healthy found opens decodes
  obtain ⟨later, split⟩ := task.shown_isPrefix records
  have taken : picturesOf (task.shown records) = pictures.take (task.wanted records) :=
    picturesOf_shown records
  refine ⟨code, task.shown records, later, split.symm, printed, taken, ?_, ?_, ?_, ?_⟩
  · intro few
    rw [shown_all few] at split
    exact List.append_right_eq_self.1 split
  · intro count told
    refine ⟨shown_ends told, ?_⟩
    have number : task.wanted records = max 1 count := by rw [wanted, told]; rfl
    rw [taken, List.length_take, number, ← List.length_eq_zero_iff]
    omega
  · intro raw
    have bytes : ended.printed = printouts .raw (task.shown records) := printed.trans (by rw [← raw])
    rw [bytes, printouts_raw, taken]
  · intro source steady whole relayed
    have same := Receiver.records_of_decodeAll steady
      ((congrArg (decodeAll · none standardLimit) whole).trans decodes)
    obtain ⟨printed', failure⟩ := task.relayFrom_shown format same.1 same.2
    exact ⟨printed'.trans printed.symm, failure⟩

/-- Two pictures of one pixel, the second of which is announced again. -/
def twoPictures : List Record :=
  [.announcement ⟨1, 1⟩, .picture ⟨5, ⟨1, 1⟩, [0x41]⟩, .announcement ⟨1, 1⟩, .picture ⟨6, ⟨1, 1⟩, [0x42]⟩]

/-- The two pictures are read back. -/
lemma decodeAll_twoPictures : decodeAll (encodeAll twoPictures) none standardLimit = (twoPictures, .more []) := by
  have wf : WellFormed standardLimit none twoPictures :=
    .cons (.announcement rfl) (.cons (.picture rfl rfl (by decide) (by decide))
      (.cons (.announcement rfl) (.cons (.picture rfl rfl (by decide) (by decide)) .nil)))
  exact wf.decodeAll_eq standardLimit_counted

/-- Told to read one picture of two, the program prints the samples of the first. -/
theorem run_stops_after_count_one :
    let ended := run (piped (encodeAll twoPictures)) [] ["--format", "raw", "read", "r.fifo", "--count", "1"]
    ended.printed = [0x41] ∧ ended.code = Exit.success := by
  intro ended
  obtain ⟨code, shown, later, -, -, -, -, -, raw, -⟩ := run_stops_after_count
    (piped (encodeAll twoPictures)) [] ["--format", "raw", "read", "r.fifo", "--count", "1"]
    rfl rfl rfl rfl rfl decodeAll_twoPictures
  exact ⟨raw rfl, code⟩

/-- Told to read no picture, the program prints one. -/
theorem run_counts_from_one :
    let ended := run (piped (encodeAll twoPictures)) [] ["--format", "raw", "read", "r.fifo", "--count", "0"]
    decodeAll (encodeAll twoPictures) none standardLimit = (twoPictures, .more []) ∧
      ended.printed = [0x41] ∧
      ended.printed ≠ ((picturesOf twoPictures).take (min 0 2)).flatMap Picture.payload := by
  intro ended
  have printed : ended.printed = [0x41] := (run_shown (piped (encodeAll twoPictures)) []
    ["--format", "raw", "read", "r.fifo", "--count", "0"] rfl rfl rfl rfl rfl decodeAll_twoPictures).1
  refine ⟨decodeAll_twoPictures, printed, ?_⟩
  rw [printed]
  decide

end Program

end PlanarPipe
