import PlanarPipe.Command.Duration
import PlanarPipe.Proofs.Text.Reading

/-!
# How durations are spelled

The grammar of durations, without the reader: a sign or none, digits, and a unit or none (`Duration.Spelling`). The
unit is taken off before the number is read, and `ms` ends like `s`; as no number ends with a letter, the longer unit
is the only reading of its texts. Main statement: `Duration.ofText_reads_spellings`.
-/

namespace PlanarPipe.Duration

/-- How a unit is written, or left out, after a number. -/
def unitText : Option Scale → List Char
  | none => []
  | some .seconds => ['s']
  | some .millis => ['m', 's']

/-- There is no white space in a unit. -/
lemma any_isBlank_unitText (unit : Option Scale) : (unitText unit).any Text.isBlank = false := by
  cases unit with
  | none => rfl
  | some scale =>
    cases scale with
    | seconds | millis => rfl

/-- A duration as it may be written, without the white space around it. -/
structure Spelling where
  plus : Bool
  digits : List Char
  unit : Option Scale
  digits_ne_nil : digits ≠ []
  isDigit : ∀ c ∈ digits, c.isDigit
  positive : 0 < Nat.ofDigitChars 10 digits 0
  small : Nat.ofDigitChars 10 digits 0 ≤ Bytes.maxWord

namespace Spelling

variable (s : Spelling)

/-- The number that is spelled. -/
def number : Nat := Nat.ofDigitChars 10 s.digits 0

def text : List Char := Text.plusSign s.plus ++ s.digits ++ unitText s.unit

/-- The seconds that are spelled: a number without a unit is one of seconds. -/
def seconds : Nat :=
  match s.unit with
  | some .millis => s.number / 1000
  | none | some .seconds => s.number

/-- The nanoseconds beyond the seconds that are spelled. -/
def nanos : Nat :=
  match s.unit with
  | some .millis => s.number % 1000 * 1000000
  | none | some .seconds => 0

/-- Nothing in a spelling is white space, so that trimming leaves it whole. -/
lemma text_unblank : ∀ c ∈ s.text, ¬ Text.isBlank c := by
  intro c member
  rw [text, List.mem_append, List.mem_append] at member
  obtain (sign | digit) | unit := member
  · cases plus : s.plus with
    | true =>
      rw [plus, Text.plusSign, List.mem_singleton] at sign
      exact sign ▸ by decide
    | false => exact absurd (plus ▸ sign) List.not_mem_nil
  · exact Text.not_isBlank_of_isDigit (s.isDigit c digit)
  · exact List.any_eq_false.1 (any_isBlank_unitText s.unit) c unit

end Spelling

/-- Two letters at the end stand for milliseconds. -/
lemma split_millis (number : List Char) : split (number ++ ['m', 's']) = (number, .millis) := by
  rw [split, List.reverse_append]
  exact congrArg (·, Scale.millis) number.reverse_reverse

/-- A text that ends in `s` without an `m` before it is given in seconds. -/
lemma split_seconds {init : List Char} {c : Char} (last : c ≠ 'm') :
    split (init ++ [c] ++ ['s']) = (init ++ [c], .seconds) := by
  rw [split, List.reverse_concat, List.reverse_concat]
  split
  case h_1 same => exact absurd (List.cons.inj (List.cons.inj same).2).1 last
  case h_2 same => rw [← (List.cons.inj same).2, List.reverse_cons, List.reverse_reverse]
  case h_3 other => exact absurd rfl (other _)

/-- A text that does not end in `s` is a number of seconds. -/
lemma split_bare {init : List Char} {c : Char} (last : c ≠ 's') : split (init ++ [c]) = (init ++ [c], .seconds) := by
  rw [split, List.reverse_concat]
  split
  case h_1 same => exact absurd (List.cons.inj same).1 last
  case h_2 same => exact absurd (List.cons.inj same).1 last
  case h_3 => rfl

/-- What is taken off as a unit is the end of the text. -/
lemma split_text (text : List Char) :
    ∃ unit, text = (split text).1 ++ unitText unit ∧ (split text).2 = unit.getD .seconds := by
  have of_reverse (unit number : List Char) (ends : text.reverse = unit ++ number) :
      text = number.reverse ++ unit.reverse := by
    rw [← List.reverse_append, ← ends, List.reverse_reverse]
  unfold split
  split
  case h_1 number ends => exact ⟨some .millis, of_reverse ['s', 'm'] number ends, rfl⟩
  case h_2 number _ ends => exact ⟨some .seconds, of_reverse ['s'] number ends, rfl⟩
  case h_3 => exact ⟨none, (List.append_nil _).symm, rfl⟩

/-- The unit of a spelling is taken off whole: before it stands a digit. -/
lemma Spelling.split_eq (s : Spelling) :
    split s.text = (Text.plusSign s.plus ++ s.digits, s.unit.getD .seconds) := by
  obtain empty | ⟨init, c, digits⟩ := s.digits.eq_nil_or_concat'
  · exact absurd empty s.digits_ne_nil
  · have isDigit : c.isDigit := s.isDigit c (digits ▸ List.mem_concat_self ..)
    rw [text, digits, ← List.append_assoc]
    cases s.unit with
    | none =>
      rw [unitText, List.append_nil]
      exact split_bare fun same => absurd (same ▸ isDigit) (by decide)
    | some scale =>
      cases scale with
      | seconds => exact split_seconds fun same => absurd (same ▸ isDigit) (by decide)
      | millis => exact split_millis _

/-- A duration is told by its whole seconds and the nanoseconds beyond them. -/
lemma eq_iff {d e : Duration} : d = e ↔ d.seconds = e.seconds ∧ d.nanos = e.nanos := by
  refine ⟨fun same => same ▸ ⟨rfl, rfl⟩, fun ⟨seconds, nanos⟩ => ?_⟩
  obtain ⟨m⟩ := d
  obtain ⟨n⟩ := e
  simp only [Duration.seconds, Duration.nanos] at seconds nanos
  rw [mk.injEq]
  omega

/-- The duration that is spelled. -/
def Spelling.duration (s : Spelling) : Duration := ⟨s.number * (s.unit.getD .seconds).weight⟩

/-- A spelled duration has the seconds and nanoseconds that its unit makes of its number. -/
lemma Spelling.duration_parts (s : Spelling) :
    s.duration.seconds = s.seconds ∧ s.duration.nanos = s.nanos := by
  have whole (n : Nat) : n * 1000 / 1000 = n ∧ n * 1000 % 1000 * 1000000 = 0 := by omega
  have parts (n : Nat) : n * 1 / 1000 = n / 1000 ∧ n * 1 % 1000 * 1000000 = n % 1000 * 1000000 := by omega
  simp only [Duration.seconds, Duration.nanos, duration, seconds, nanos]
  cases s.unit with
  | none => exact whole s.number
  | some scale =>
    cases scale with
    | seconds => exact whole s.number
    | millis => exact parts s.number

/-- A text is read as a duration exactly if the number before its unit is read and is positive. -/
lemma ofText_eq_ok_iff {input : List Char} {d : Duration} :
    ofText input = .ok d ↔ ∃ n, Text.readNat Bytes.maxWord (split (Text.trim input)).1 = .ok n ∧ 0 < n ∧
      d = ⟨n * (split (Text.trim input)).2.weight⟩ := by
  rw [ofText]
  split
  case isTrue empty =>
    rw [List.isEmpty_iff.1 empty]
    exact ⟨nofun, fun ⟨_, read, _⟩ => absurd read nofun⟩
  case isFalse =>
    dsimp only
    cases Text.readNat Bytes.maxWord (split (Text.trim input)).1 with
    | error => exact ⟨nofun, fun ⟨_, read, _⟩ => absurd read nofun⟩
    | ok n =>
      cases n with
      | zero => exact ⟨nofun, fun ⟨_, read, positive, _⟩ => absurd (Except.ok.inj read) positive.ne⟩
      | succ n =>
        refine ⟨fun read => ⟨n + 1, rfl, n.succ_pos, (Except.ok.inj read).symm⟩, ?_⟩
        rintro ⟨_, read, _, rfl⟩
        obtain rfl := Except.ok.inj read
        rfl

/-- Whatever is wrong with a text, it is a wrong call. -/
lemma ofText_refuses {input : List Char} {f : Failure} (refused : ofText input = .error f) : f.code = Exit.usage := by
  rw [ofText] at refused
  split at refused
  case isTrue => rw [← Except.error.inj refused]
  case isFalse =>
    dsimp only at refused
    split at refused
    case h_1 | h_2 => rw [← Except.error.inj refused]
    case h_3 => exact absurd refused nofun

/-- The text is read from the digits on, and trimming leaves it as it is. -/
lemma Spelling.ofText_eq (s : Spelling) {input : List Char} (pads : Text.Padded s.text input) :
    ofText input = .ok s.duration := by
  rw [ofText_eq_ok_iff, pads.trim_eq s.text_unblank, s.split_eq]
  have read := Text.readNat_eq_ok_iff.2 ⟨s.plus, s.digits, rfl, s.digits_ne_nil, s.isDigit, rfl, s.small⟩
  exact ⟨s.number, read, s.positive, rfl⟩

/-- A text that is read spells what is read, with white space around it. -/
lemma exists_spelling {input : List Char} {d : Duration} (read : ofText input = .ok d) :
    ∃ s : Spelling, Text.Padded s.text input ∧ d = s.duration := by
  obtain ⟨n, number, positive, rfl⟩ := ofText_eq_ok_iff.1 read
  obtain ⟨unit, ends, scale⟩ := split_text (Text.trim input)
  obtain ⟨plus, digits, spelled, digits_ne_nil, isDigit, rfl, small⟩ := Text.readNat_eq_ok_iff.1 number
  refine ⟨⟨plus, digits, unit, digits_ne_nil, isDigit, positive, small⟩, ?_, ?_⟩
  · rw [Spelling.text, ← spelled, ← ends]
    exact Text.padded_trim input
  · rw [scale]
    rfl

/-- A text is a duration just if it is a spelling of a positive number of 64 bits between white space, and then
the duration is that of the spelling; every other text is a wrong call. -/
theorem ofText_reads_spellings (input : List Char) :
    (∀ d, ofText input = .ok d ↔
      ∃ s : Spelling, Text.Padded s.text input ∧ d.seconds = s.seconds ∧ d.nanos = s.nanos) ∧
      ((∃ message, ofText input = .error ⟨Exit.usage, message⟩) ↔ ¬ ∃ s : Spelling, Text.Padded s.text input) := by
  refine ⟨fun d => ⟨fun read => ?_, ?_⟩, ?_, fun unspelled => ?_⟩
  · obtain ⟨s, pads, rfl⟩ := exists_spelling read
    exact ⟨s, pads, s.duration_parts⟩
  · rintro ⟨s, pads, seconds, nanos⟩
    rw [s.ofText_eq pads, eq_iff.2 ⟨seconds.trans s.duration_parts.1.symm, nanos.trans s.duration_parts.2.symm⟩]
  · rintro ⟨message, refused⟩ ⟨s, pads⟩
    rw [s.ofText_eq pads] at refused
    exact absurd refused nofun
  · cases read : ofText input with
    | ok d =>
      obtain ⟨s, pads, _⟩ := exists_spelling read
      exact absurd ⟨s, pads⟩ unspelled
    | error f =>
      obtain ⟨code, message⟩ := f
      obtain rfl : code = Exit.usage := ofText_refuses read
      exact ⟨message, rfl⟩

example : ofText "\t+0150ms ".toList = .ok ⟨150⟩ := by decide

end PlanarPipe.Duration
