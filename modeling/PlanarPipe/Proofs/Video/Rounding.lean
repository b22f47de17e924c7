import Mathlib.Data.Rat.Floor
import Mathlib.Order.Interval.Set.UnorderedInterval
import Mathlib.Tactic.Linarith
import PlanarPipe.Video.Timing

/-!
# Rounding to whole numbers

`Rounding.Rounds` says to which integer a rational number is rounded, and not how it is found. There is no
more than one such integer (`Rounds.unique`). Rounding does not see the sign (`Rounds.neg`), and a number that
is not negative is rounded by cutting off its fraction, after one half was added where the nearest integer is
asked for (`rounds_iff`). From these two it follows that rounding keeps the order (`Rounds.mono`) and keeps
numbers apart that differ by one or more, unless zero comes between them and is too near (`Rounds.lt`). The
divisions of natural numbers that `Rounding.divide` performs round their quotients (`divide_rounds`).
-/

namespace PlanarPipe.Rounding

/-- The integer that a number is rounded to. Toward zero, it is the one farthest from zero of those between
zero and the number. To the nearest, no integer is nearer to the number, and none that is equally near is
farther from zero. -/
def Rounds : Rounding → ℚ → ℤ → Prop
  | .towardZero, q, n => (n : ℚ) ∈ Set.uIcc 0 q ∧ ∀ m : ℤ, (m : ℚ) ∈ Set.uIcc 0 q → |m| ≤ |n|
  | .nearest, q, n => ∀ m : ℤ, |q - n| ≤ |q - m| ∧ (|q - m| = |q - n| → |m| ≤ |n|)

/-- What is added to a number that is not negative before its fraction is cut off. -/
def lift : Rounding → ℚ
  | .towardZero => 0
  | .nearest => 1 / 2

variable {r : Rounding} {p q : ℚ} {m n : ℤ}

/-- Nothing is taken away before the fraction is cut off. -/
lemma lift_nonneg (r : Rounding) : 0 ≤ r.lift := by
  cases r <;> norm_num [lift]

/-- Rounding does not see the sign. -/
lemma Rounds.neg (rounds : r.Rounds q n) : r.Rounds (-q) (-n) := by
  cases r with
  | towardZero =>
    have flip : ∀ {m : ℤ} {q : ℚ}, (m : ℚ) ∈ Set.uIcc 0 q → ((-m : ℤ) : ℚ) ∈ Set.uIcc 0 (-q) := by
      intro m q between
      rw [Set.mem_uIcc] at between ⊢
      push_cast
      rcases between with ⟨low, high⟩ | ⟨low, high⟩
      · exact .inr ⟨neg_le_neg high, neg_nonpos.2 low⟩
      · exact .inl ⟨neg_nonneg.2 high, neg_le_neg low⟩
    obtain ⟨between, farthest⟩ := rounds
    refine ⟨flip between, fun m other => ?_⟩
    rw [abs_neg, ← abs_neg m]
    apply farthest
    rw [← neg_neg q]
    exact flip other
  | nearest =>
    have mirrored : ∀ m : ℤ, |-q - m| = |q - (-m : ℤ)| := by
      intro m
      rw [← abs_neg, Int.cast_neg, sub_neg_eq_add, neg_sub, sub_neg_eq_add, add_comm]
    intro m
    rw [mirrored, mirrored, neg_neg, abs_neg, ← abs_neg m]
    exact rounds (-m)

/-- Only the nearest integer and the one below it can be equally near to a number that is not negative. -/
lemma eq_of_tie (positive : 0 ≤ q) (tie : |q - m| = |q - round q|) :
    m = round q ∨ m = round q - 1 ∧ 0 ≤ m := by
  obtain ⟨low, high⟩ := round_eq_iff.1 (rfl : round q = round q)
  rcases abs_eq_abs.1 tie with same | opposite
  · left
    exact_mod_cast sub_right_injective same
  · have above : round q - 1 ≤ m := by
      have : (round q - 1 : ℚ) ≤ m := by linarith
      exact_mod_cast this
    have below : m < round q + 1 := by
      have : (m : ℚ) < round q + 1 := by linarith
      exact_mod_cast this
    have whole : 0 ≤ m + round q := by
      have : (0 : ℚ) ≤ m + round q := by linarith
      exact_mod_cast this
    omega

/-- A number that is not negative is rounded by cutting off a fraction. -/
lemma floor_rounds (positive : 0 ≤ q) : r.Rounds q ⌊q + r.lift⌋ := by
  cases r with
  | towardZero =>
    rw [lift, add_zero]
    have start : 0 ≤ ⌊q⌋ := Int.floor_nonneg.2 positive
    constructor
    · rw [Set.uIcc_of_le positive]
      exact ⟨by exact_mod_cast start, Int.floor_le q⟩
    · intro m between
      rw [Set.uIcc_of_le positive] at between
      rw [abs_of_nonneg start, abs_of_nonneg (by exact_mod_cast between.1)]
      exact Int.le_floor.2 between.2
  | nearest =>
    rw [lift, ← round_eq]
    intro m
    refine ⟨round_le q m, fun tie => ?_⟩
    rcases eq_of_tie positive tie with rfl | ⟨below, start⟩
    · exact le_refl _
    · rw [abs_of_nonneg start, abs_of_nonneg (by omega)]
      omega

/-- A number that is not negative is rounded in no other way. -/
lemma Rounds.eq_floor (rounds : r.Rounds q n) (positive : 0 ≤ q) : n = ⌊q + r.lift⌋ := by
  cases r with
  | towardZero =>
    obtain ⟨between, farthest⟩ := rounds
    obtain ⟨floorBetween, -⟩ := floor_rounds (r := .towardZero) positive
    rw [lift, add_zero] at floorBetween ⊢
    have most := farthest ⌊q⌋ floorBetween
    rw [Set.uIcc_of_le positive] at between
    rw [abs_of_nonneg (Int.floor_nonneg.2 positive), abs_of_nonneg (by exact_mod_cast between.1)] at most
    exact le_antisymm (Int.le_floor.2 between.2) most
  | nearest =>
    rw [lift, ← round_eq]
    have tie : |q - n| = |q - round q| := le_antisymm (rounds (round q)).1 (round_le q n)
    have farther := (rounds (round q)).2 tie.symm
    rcases eq_of_tie positive tie with same | ⟨below, start⟩
    · exact same
    · rw [abs_of_nonneg start, abs_of_nonneg (by omega)] at farther
      omega

/-- A number that is not negative is rounded by cutting off the fraction of what is lifted. -/
lemma rounds_iff (positive : 0 ≤ q) : r.Rounds q n ↔ n = ⌊q + r.lift⌋ :=
  ⟨fun rounds => rounds.eq_floor positive, fun floor => floor ▸ floor_rounds positive⟩

/-- A number that is not negative is not rounded to a negative one. -/
lemma Rounds.nonneg (rounds : r.Rounds q n) (positive : 0 ≤ q) : 0 ≤ n := by
  rw [rounds.eq_floor positive]
  exact Int.floor_nonneg.2 (add_nonneg positive r.lift_nonneg)

/-- A number that is not positive is not rounded to a positive one. -/
lemma Rounds.nonpos (rounds : r.Rounds q n) (negative : q ≤ 0) : n ≤ 0 :=
  neg_nonneg.1 (rounds.neg.nonneg (neg_nonneg.2 negative))

/-- A greater number is not rounded to a smaller integer. -/
lemma Rounds.mono (low : r.Rounds p m) (high : r.Rounds q n) (le : p ≤ q) : m ≤ n := by
  -- on one side of zero the fractions are cut off in the same direction
  have aside : ∀ {p q : ℚ} {m n : ℤ}, 0 ≤ p → p ≤ q → r.Rounds p m → r.Rounds q n → m ≤ n := by
    intro p q m n positive le low high
    rw [low.eq_floor positive, high.eq_floor (positive.trans le)]
    exact Int.floor_le_floor (add_le_add_left le _)
  rcases le_total 0 p with positive | below
  · exact aside positive le low high
  · rcases le_total q 0 with negative | above
    · exact neg_le_neg_iff.1 (aside (neg_nonneg.2 negative) (neg_le_neg le) high.neg low.neg)
    · exact (low.nonpos below).trans (high.nonneg above)

/-- A number is rounded to one integer only. -/
lemma Rounds.unique (rounds : r.Rounds q m) (other : r.Rounds q n) : m = n :=
  le_antisymm (rounds.mono other le_rfl) (other.mono rounds le_rfl)

/-- An integer is rounded to itself. -/
lemma rounds_self (r : Rounding) (n : ℤ) : r.Rounds n n := by
  have positive : ∀ n : ℤ, 0 ≤ n → r.Rounds n n := by
    intro n positive
    have above : (0 : ℚ) ≤ n := by exact_mod_cast positive
    rw [rounds_iff above, Int.floor_intCast_add, left_eq_add, Int.floor_eq_zero_iff]
    cases r <;> norm_num [lift]
  rcases le_total 0 n with above | below
  · exact positive n above
  · have rounds := (positive (-n) (neg_nonneg.2 below)).neg
    rwa [Int.cast_neg, neg_neg, neg_neg] at rounds

/-- Numbers that differ by one or more stay apart, but where zero comes between them the lower one is to be
as far from it as one. -/
lemma Rounds.lt (low : r.Rounds p m) (high : r.Rounds q n) (apart : p + 1 ≤ q) (clear : p ≤ -1 ∨ 0 ≤ p) :
    m < n := by
  have aside : ∀ {p q : ℚ} {m n : ℤ}, 0 ≤ p → p + 1 ≤ q → r.Rounds p m → r.Rounds q n → m < n := by
    intro p q m n positive apart low high
    rw [low.eq_floor positive, high.eq_floor (by linarith), Int.lt_iff_add_one_le, ← Int.floor_add_one]
    exact Int.floor_le_floor (by linarith)
  rcases clear with below | positive
  · rcases le_total q 0 with negative | above
    · exact neg_lt_neg_iff.1 (aside (neg_nonneg.2 negative) (by linarith) high.neg low.neg)
    · have far : m ≤ -1 := low.mono (rounds_self r (-1)) (by exact_mod_cast below)
      have start := high.nonneg above
      omega
  · exact aside positive apart low high

/-- Of the two integers that a number is rounded to in the two ways, the nearest one is the same or the next
one away from zero. -/
lemma nearest_of_towardZero (cut : towardZero.Rounds q m) (near : nearest.Rounds q n) :
    0 ≤ m ∧ (n = m ∨ n = m + 1) ∨ m ≤ 0 ∧ (n = m ∨ n = m - 1) := by
  have aside : ∀ {q : ℚ} {m n : ℤ}, 0 ≤ q → towardZero.Rounds q m → nearest.Rounds q n →
      0 ≤ m ∧ (n = m ∨ n = m + 1) := by
    intro q m n positive cut near
    have start := cut.nonneg positive
    have low : ⌊q⌋ ≤ ⌊q + 1 / 2⌋ := Int.floor_le_floor (by linarith)
    have high : ⌊q + 1 / 2⌋ ≤ ⌊q + 1⌋ := Int.floor_le_floor (by linarith)
    have cut := cut.eq_floor positive
    have near := near.eq_floor positive
    rw [Int.floor_add_one] at high
    rw [lift, add_zero] at cut
    rw [lift] at near
    omega
  rcases le_total 0 q with positive | negative
  · exact .inl (aside positive cut near)
  · have mirrored := aside (neg_nonneg.2 negative) cut.neg near.neg
    omega

/-- A quotient of natural numbers is rounded by dividing. -/
lemma divide_rounds (r : Rounding) (n d : ℕ) (pos : 0 < d) : r.Rounds (n / d) (r.divide n d : ℕ) := by
  have above : (0 : ℚ) < d := by exact_mod_cast pos
  rw [rounds_iff (by positivity)]
  cases r with
  | towardZero => rw [divide, lift, add_zero, Rat.floor_natCast_div_natCast, Int.natCast_div]
  | nearest =>
    apply eq_of_forall_le_iff
    intro k
    -- twice the divisor decides, so that an odd one is halved without loss
    have half : (k : ℚ) ≤ n / d + lift .nearest ↔ 2 * (k * d) ≤ 2 * n + (d : ℤ) := by
      rw [lift, div_add' _ _ _ above.ne', le_div_iff₀ above]
      constructor
      · intro le
        have : 2 * (k * d) ≤ (2 * n + d : ℚ) := by linarith
        exact_mod_cast this
      · intro le
        have : 2 * (k * d) ≤ (2 * n + d : ℚ) := by exact_mod_cast le
        linarith
    rw [Int.le_floor, half, divide, Int.natCast_div, Int.le_ediv_iff_mul_le (by exact_mod_cast pos)]
    push_cast
    omega

end PlanarPipe.Rounding
