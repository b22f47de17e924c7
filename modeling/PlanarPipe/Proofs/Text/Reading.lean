import Mathlib.Data.List.DropRight
import PlanarPipe.Text.Blank
import PlanarPipe.Text.Number

/-!
# Trimmed texts and whole numbers

What trimming leaves of a text, told without the scan: the text is what it leaves between two runs of white space
(`Text.padded_trim`), and a text without white space is left of all texts that pad it (`Text.Padded.trim_eq`).
What the digits of a number mean is told by `Nat.ofDigitChars`, which has no bound; the reader refuses just the
digits of a number beyond its bound, however long they are (`Text.readDigits_eq_ok_iff`).
-/

namespace PlanarPipe.Text

/-- A text with white space, or none, on its two sides. -/
def Padded (text padded : List Char) : Prop :=
  ∃ before after, (∀ c ∈ before, isBlank c) ∧ (∀ c ∈ after, isBlank c) ∧ padded = before ++ text ++ after

/-- Trimming takes nothing but white space away. -/
lemma padded_trim (input : List Char) : Padded (trim input) input := by
  refine ⟨input.takeWhile isBlank, (input.dropWhile isBlank).rtakeWhile isBlank,
    fun _ => List.mem_takeWhile_imp, fun _ => List.mem_rtakeWhile_imp, ?_⟩
  calc input
    _ = input.takeWhile isBlank ++ input.dropWhile isBlank := List.takeWhile_append_dropWhile.symm
    _ = input.takeWhile isBlank ++ (trim input ++ (input.dropWhile isBlank).rtakeWhile isBlank) :=
      congrArg _ (List.rdropWhile_append_rtakeWhile ..).symm
    _ = _ := (List.append_assoc ..).symm

/-- Where there is no white space none is dropped. -/
lemma dropWhile_unblank {text : List Char} (unblank : ∀ c ∈ text, ¬ isBlank c) : text.dropWhile isBlank = text :=
  List.dropWhile_eq_self_iff.2 fun _ => unblank _ (List.getElem_mem _)

/-- Of white space alone nothing is left. -/
lemma trim_blank {after : List Char} (blank : ∀ c ∈ after, isBlank c) : trim after = [] := by
  rw [trim, List.dropWhile_eq_nil_iff.2 blank]
  rfl

/-- Trimming takes all white space at the two ends away. -/
lemma Padded.trim_eq {text padded : List Char} (pads : Padded text padded) (unblank : ∀ c ∈ text, ¬ isBlank c) :
    trim padded = text := by
  obtain ⟨before, after, front, back, rfl⟩ := pads
  cases text with
  | nil =>
    refine trim_blank fun c member => ?_
    rw [List.append_nil] at member
    exact (List.mem_append.1 member).elim (front c) (back c)
  | cons c text =>
    rw [trim, List.append_assoc, List.dropWhile_append_of_pos front, List.cons_append,
      List.dropWhile_cons_of_neg (unblank c List.mem_cons_self), ← List.cons_append, List.reverse_append,
      List.dropWhile_append_of_pos fun c member => back c (List.mem_reverse.1 member),
      dropWhile_unblank fun c member => unblank c (List.mem_reverse.1 member), List.reverse_reverse]

/-- A digit is not white space. -/
lemma not_isBlank_of_isDigit {c : Char} (digit : c.isDigit) : ¬ isBlank c := by
  have bounds : 48 ≤ c.toNat ∧ c.toNat ≤ 57 := by
    rw [Char.isDigit, Bool.and_eq_true, decide_eq_true_eq, decide_eq_true_eq] at digit
    exact digit
  simp only [isBlank, blankRanges, List.any_cons, List.any_nil, Bool.or_false, Bool.or_eq_true, Bool.and_eq_true,
    decide_eq_true_eq]
  omega

/-- A character is read as a digit just if it is one, and means its distance from zero. -/
lemma digit?_eq_some_iff {c : Char} {d : Nat} : digit? c = some d ↔ c.isDigit ∧ d = c.toNat - '0'.toNat := by
  rw [digit?, Option.ite_none_right_eq_some, Option.some_inj, eq_comm (a := d)]

/-- Further digits never make a number smaller. -/
lemma le_ofDigitChars (digits : List Char) (acc : Nat) : acc ≤ Nat.ofDigitChars 10 digits acc := by
  rw [Nat.ofDigitChars_eq_ofDigitChars_zero]
  exact (Nat.le_mul_of_pos_left acc (Nat.pow_pos (by decide))).trans (Nat.le_add_right ..)

/-- Digits are read as the number they mean if it is within the bound. A number only grows with further digits, so
that none is refused early. -/
lemma readDigits_eq_ok_iff {max acc n : Nat} {excess : NumberFault} {digits : List Char} (small : acc ≤ max) :
    readDigits max excess acc digits = .ok n ↔
      (∀ c ∈ digits, c.isDigit) ∧ Nat.ofDigitChars 10 digits acc = n ∧ n ≤ max := by
  induction digits generalizing acc with
  | nil =>
    rw [readDigits, Nat.ofDigitChars_nil, Except.ok.injEq]
    exact ⟨fun read => ⟨nofun, read, read ▸ small⟩, fun spelled => spelled.2.1⟩
  | cons c rest ih =>
    rw [readDigits, Nat.ofDigitChars_cons, List.forall_mem_cons]
    cases digit : digit? c with
    | none =>
      refine ⟨nofun, fun ⟨⟨isDigit, _⟩, _⟩ => ?_⟩
      rw [digit?, if_pos isDigit] at digit
      exact absurd digit nofun
    | some d =>
      obtain ⟨isDigit, rfl⟩ := digit?_eq_some_iff.1 digit
      dsimp only
      split
      case isTrue beyond =>
        refine ⟨nofun, fun ⟨_, value, bound⟩ => ?_⟩
        have grown := le_ofDigitChars rest (10 * acc + (c.toNat - '0'.toNat))
        omega
      case isFalse within =>
        rw [ih (Nat.not_lt.1 within)]
        exact ⟨fun ⟨rest, value⟩ => ⟨⟨isDigit, rest⟩, value⟩, fun ⟨⟨_, rest⟩, value⟩ => ⟨rest, value⟩⟩

/-- The sign of a number that may be left out. -/
def plusSign : Bool → List Char
  | true => ['+']
  | false => []

/-- A number is read off its digits, with a plus sign or without. -/
lemma readNat_spelled (max : Nat) (plus : Bool) {digits : List Char} (some : digits ≠ [])
    (isDigit : ∀ c ∈ digits, c.isDigit) :
    readNat max (plusSign plus ++ digits) = readDigits max .tooLarge 0 digits := by
  obtain ⟨c, rest, rfl⟩ := List.exists_cons_of_ne_nil some
  cases plus with
  | true => rfl
  | false =>
    have unsigned : c ≠ '+' := fun sign => absurd (isDigit c List.mem_cons_self) (sign ▸ by decide)
    rw [plusSign, List.nil_append, readNat]
    · exact nofun
    · exact fun same => unsigned (List.cons.inj same).1
    · exact fun _ same => unsigned (List.cons.inj same).1

/-- A number from zero on is one digit or more, after a plus sign or none. -/
lemma readNat_eq_ok_iff {max n : Nat} {text : List Char} :
    readNat max text = .ok n ↔ ∃ plus digits, text = plusSign plus ++ digits ∧ digits ≠ [] ∧
      (∀ c ∈ digits, c.isDigit) ∧ Nat.ofDigitChars 10 digits 0 = n ∧ n ≤ max := by
  constructor
  · intro read
    unfold readNat at read
    split at read
    case h_1 | h_2 => exact absurd read nofun
    case h_3 digits some =>
      exact ⟨true, digits, rfl, fun empty => some (empty ▸ rfl), (readDigits_eq_ok_iff max.zero_le).1 read⟩
    case h_4 some _ _ => exact ⟨false, text, rfl, some, (readDigits_eq_ok_iff max.zero_le).1 read⟩
  · rintro ⟨plus, digits, rfl, some, isDigit, value⟩
    rw [readNat_spelled max plus some isDigit]
    exact (readDigits_eq_ok_iff max.zero_le).2 ⟨isDigit, value⟩

end PlanarPipe.Text
