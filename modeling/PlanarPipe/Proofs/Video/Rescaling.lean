import PlanarPipe.Proofs.Video.Rounding

/-!
# Ticks in microseconds

A tick stands for a rational number of microseconds (`TimeBase.instant`). Its time stamp is that number,
rounded once (`TimeBase.whole_rounds`) and then kept within 64 bits. The numbers on the way are computed in
signed words of 128 bits, which hold them whatever the time base and the tick (`TimeBase.microsWide_eq`).
Main statement: `TimeBase.micros_rounds_once`.
-/

namespace PlanarPipe

/-- An integer, if a signed word of 128 bits holds it. -/
def wide (i : ℤ) : Option ℤ :=
  if -0x8000_0000_0000_0000_0000_0000_0000_0000 ≤ i ∧ i < 0x8000_0000_0000_0000_0000_0000_0000_0000 then some i
  else none

/-- Words of 128 bits hold an integer below their range. -/
lemma wide_eq {i : ℤ} (small : i.natAbs < 0x8000_0000_0000_0000_0000_0000_0000_0000) : wide i = some i := by
  rw [wide, if_pos (by omega)]

/-- They hold a natural number below their range. -/
lemma wide_natCast {n : ℕ} (small : n < 0x8000_0000_0000_0000_0000_0000_0000_0000) : wide n = some (n : ℤ) :=
  wide_eq (by rwa [Int.natAbs_natCast])

/-- An integer is kept within 64 bits by taking the nearer end of their range for it. -/
lemma toInt_clampInt64 (i : ℤ) :
    (clampInt64 i).toInt = max Int64.minValue.toInt (min Int64.maxValue.toInt i) := by
  have least := Int64.toInt_minValue
  have most := Int64.toInt_maxValue
  apply Int64.toInt_ofInt_of_le <;> omega

/-- A quotient of integers as `Rounding.divide` rounds it, if words of 128 bits hold the numbers on the way. -/
def Rounding.divideWide (r : Rounding) (n d : ℤ) : Option ℤ :=
  match r with
  | .towardZero => wide (n.tdiv d)
  | .nearest => do
    let sum ← wide (n + d.tdiv 2)
    wide (sum.tdiv d)

/-- Small natural numbers are divided in 128 bits as without a bound. -/
lemma Rounding.divideWide_eq (r : Rounding) {n d : ℕ}
    (small : n + d < 0x8000_0000_0000_0000_0000_0000_0000_0000) :
    r.divideWide n d = some (r.divide n d : ℤ) := by
  cases r with
  | towardZero =>
    have less : n / d ≤ n := Nat.div_le_self n d
    rw [divideWide, ← Int.ofNat_tdiv, wide_natCast (by omega), divide]
  | nearest =>
    have less : (n + d / 2) / d ≤ n + d / 2 := Nat.div_le_self _ d
    have half : (n : ℤ) + (d : ℤ).tdiv 2 = ((n + d / 2 : ℕ) : ℤ) := by
      rw [Nat.cast_add, Int.ofNat_tdiv, Nat.cast_ofNat]
    rw [divideWide, half, wide_natCast (by omega), Option.bind_eq_bind, Option.bind_some, ← Int.ofNat_tdiv,
      wide_natCast (by omega), divide]

namespace TimeBase

variable (b : TimeBase) (r : Rounding) (ticks : Int64)

/-- The microseconds that a tick stands for. -/
def instant : ℚ := ticks.toInt * b.num.toInt * 1000000 / b.den.toInt

/-- A tick in whole microseconds, which may be more than 64 bits hold. -/
def whole : ℤ := if ticks < 0 then -b.magnitude r ticks else b.magnitude r ticks

/-- A time stamp is the whole number of microseconds, kept within 64 bits. -/
lemma micros_eq : b.micros r ticks = clampInt64 (b.whole r ticks) := rfl

/-- A tick in microseconds as signed words of 128 bits compute it, if they hold every number on the way. -/
def microsWide : Option Int64 := do
  let distance ← wide |ticks.toInt|
  let product ← wide (distance * b.num.toInt)
  let scaled ← wide (product * 1000000)
  let magnitude ← r.divideWide scaled b.den.toInt
  let value ← wide (if ticks < 0 then -magnitude else magnitude)
  some (clampInt64 value)

/-- Positive numbers of 32 bits, as natural numbers. -/
lemma toNat_pos {n : Int32} (positive : 0 < n) :
    n.toInt = (n.toInt.toNat : ℤ) ∧ 0 < n.toInt.toNat ∧ n.toInt.toNat < 0x8000_0000 := by
  have most := n.toInt_le
  rw [Int32.lt_iff_toInt_lt, Int32.toInt_zero] at positive
  rw [Int32.toInt_maxValue] at most
  omega

/-- A tick is at most 2^63 away from zero. -/
lemma natAbs_ticks_le : ticks.toInt.natAbs ≤ 0x8000_0000_0000_0000 := by
  have least := ticks.minValue_le_toInt
  have most := ticks.toInt_le
  rw [Int64.toInt_minValue] at least
  rw [Int64.toInt_maxValue] at most
  omega

/-- Times the numerator it is below 2^94. -/
lemma product_lt : ticks.toInt.natAbs * b.num.toInt.toNat < 0x8000_0000_0000_0000 * 0x8000_0000 :=
  Nat.mul_lt_mul_of_le_of_lt (natAbs_ticks_le ticks) (toNat_pos b.num_pos).2.2 (by decide)

/-- In millionths it is below a million times as much. -/
lemma scaled_lt : b.scaled ticks < 0x8000_0000_0000_0000 * 0x8000_0000 * 1000000 := by
  have less := b.product_lt ticks
  rw [scaled]
  omega

/-- Rounding adds at most half of the denominator before it divides. -/
lemma magnitude_le : b.magnitude r ticks ≤ b.scaled ticks + b.den.toInt.toNat / 2 := by
  cases r with
  | towardZero => exact (Nat.div_le_self ..).trans (Nat.le_add_right ..)
  | nearest => exact Nat.div_le_self ..

/-- Words of 128 bits hold every number on the way to a time stamp. -/
lemma microsWide_eq : b.microsWide r ticks = some (b.micros r ticks) := by
  obtain ⟨num, -, -⟩ := toNat_pos b.num_pos
  obtain ⟨den, -, small⟩ := toNat_pos b.den_pos
  have most := natAbs_ticks_le ticks
  have less := b.product_lt ticks
  have large := b.scaled_lt ticks
  have sum := b.magnitude_le r ticks
  have distance : wide |ticks.toInt| = some (ticks.toInt.natAbs : ℤ) := by
    rw [Int.abs_eq_natAbs, wide_natCast (by omega)]
  have product : wide (ticks.toInt.natAbs * b.num.toInt) = some ↑(ticks.toInt.natAbs * b.num.toInt.toNat) := by
    rw [num, ← Nat.cast_mul, wide_natCast (by omega), Int.toNat_natCast]
  have scaled : wide (↑(ticks.toInt.natAbs * b.num.toInt.toNat) * 1000000) = some (b.scaled ticks : ℤ) := by
    rw [← Nat.cast_ofNat, ← Nat.cast_mul, ← TimeBase.scaled, wide_natCast (by omega)]
  have magnitude : r.divideWide (b.scaled ticks) b.den.toInt = some (b.magnitude r ticks : ℤ) := by
    rw [den, r.divideWide_eq (by omega), TimeBase.magnitude]
  have value : wide (if ticks < 0 then -b.magnitude r ticks else b.magnitude r ticks) =
      some (b.whole r ticks) := by
    apply wide_eq
    split <;> omega
  rw [microsWide, distance, Option.bind_eq_bind, Option.bind_some, product, Option.bind_some, scaled,
    Option.bind_some, magnitude, Option.bind_some, value, Option.bind_some, micros_eq]

/-- The distance of a tick from zero, with the sign of the tick, is what it stands for. -/
lemma instant_eq : b.instant ticks =
    if ticks < 0 then -((b.scaled ticks : ℚ) / b.den.toInt.toNat) else b.scaled ticks / b.den.toInt.toNat := by
  obtain ⟨num, -, -⟩ := toNat_pos b.num_pos
  obtain ⟨den, -, -⟩ := toNat_pos b.den_pos
  have scaled : (b.scaled ticks : ℚ) = (|ticks.toInt| : ℤ) * b.num.toInt * 1000000 := by
    rw [TimeBase.scaled, num, Int.toNat_natCast, Nat.cast_mul, Nat.cast_mul, Nat.cast_natAbs, Int.cast_natCast,
      Nat.cast_ofNat]
  have divisor : (b.den.toInt.toNat : ℚ) = b.den.toInt := by
    rw [den]
    rfl
  rw [instant, scaled, divisor]
  split
  case isTrue before =>
    rw [Int64.lt_iff_toInt_lt, Int64.toInt_zero] at before
    rw [abs_of_neg before]
    push_cast
    ring
  case isFalse after =>
    rw [Int64.lt_iff_toInt_lt, Int64.toInt_zero, not_lt] at after
    rw [abs_of_nonneg after]

/-- The whole microseconds are what the tick stands for, rounded. -/
lemma whole_rounds : r.Rounds (b.instant ticks) (b.whole r ticks) := by
  have rounds := r.divide_rounds (b.scaled ticks) _ (toNat_pos b.den_pos).2.1
  rw [instant_eq, whole]
  split
  · exact rounds.neg
  · exact rounds

/-- A tick from zero on is cut to whole microseconds, as far as 64 bits go. -/
lemma micros_natCast {n : ℕ} (small : n < 2 ^ 63) :
    b.micros .towardZero (Int64.ofNat n) =
      .ofInt (min (n * b.num.toInt * 1000000 / b.den.toInt) Int64.maxValue.toInt) := by
  obtain ⟨num, -, -⟩ := toNat_pos b.num_pos
  obtain ⟨den, -, -⟩ := toNat_pos b.den_pos
  have ticks : (Int64.ofNat n).toInt = n := Int64.toInt_ofNat_of_lt small
  have after : ¬Int64.ofNat n < 0 := by
    rw [Int64.lt_iff_toInt_lt, ticks]
    exact Int.not_lt.2 (Int.natCast_nonneg n)
  have cut : ((b.magnitude .towardZero (Int64.ofNat n) : ℕ) : ℤ) = n * b.num.toInt * 1000000 / b.den.toInt := by
    rw [magnitude, scaled, ticks, Int.natAbs_natCast, Rounding.divide, Int.natCast_ediv, Int.natCast_mul,
      Int.natCast_mul, ← num, ← den]
    rfl
  have positive : (0 : ℤ) ≤ n * b.num.toInt * 1000000 / b.den.toInt := cut ▸ Int.natCast_nonneg _
  rw [micros_eq, whole, if_neg after, cut, clampInt64, Int.max_eq_right, Int.min_comm]
  exact Int.le_min.2 ⟨by decide, Int.le_trans (by decide) positive⟩

/-- Where there are so many ticks in a second, a tick is its number rescaled. -/
lemma micros_rate (single : b.num = 1) {n : ℕ} (small : n < 2 ^ 63) :
    b.micros .towardZero (Int64.ofNat n) = .ofInt (min (n * 1000000 / b.den.toInt) Int64.maxValue.toInt) := by
  have scaled := b.micros_natCast small
  rwa [single, show (1 : Int32).toInt = 1 from rfl, Int.mul_one] at scaled

/-- Any two positive numbers make a time base. Whatever the rounding and the tick, words of 128 bits hold all
numbers on the way to its time stamp, which is the microseconds that the tick stands for, rounded to the one
integer that the rounding asks for and kept within 64 bits. -/
theorem micros_rounds_once {num den : Int32} (num_pos : 0 < num) (den_pos : 0 < den) :
    ∃ b, TimeBase.build num den = .ok b ∧ ∀ (r : Rounding) (ticks : Int64),
      let instant : ℚ := ticks.toInt * num.toInt * 1000000 / den.toInt
      b.microsWide r ticks = some (b.micros r ticks) ∧
        ∃ n, (∀ m, r.Rounds instant m ↔ m = n) ∧
          (b.micros r ticks).toInt = max Int64.minValue.toInt (min Int64.maxValue.toInt n) := by
  refine ⟨⟨num, den, num_pos, den_pos⟩, dif_pos ⟨num_pos, den_pos⟩, fun r ticks => ?_⟩
  intro instant
  let b : TimeBase := ⟨num, den, num_pos, den_pos⟩
  have rounds : r.Rounds instant (b.whole r ticks) := b.whole_rounds r ticks
  refine ⟨b.microsWide_eq r ticks, b.whole r ticks, fun m => ?_, ?_⟩
  · exact ⟨fun other => other.unique rounds, fun same => same ▸ rounds⟩
  · rw [micros_eq, toInt_clampInt64]

/-- Half a microsecond before zero is rounded away from zero. -/
theorem micros_rounds_once_half :
    (0 : Int32) < 1 ∧ (0 : Int32) < 2000000 ∧ ∃ b, TimeBase.build 1 2000000 = .ok b ∧
      b.microsWide .nearest (-1) = some (-1) ∧ Rounding.nearest.Rounds (-1 / 2) (-1) := by
  have num_pos : (0 : Int32) < 1 := by decide
  have den_pos : (0 : Int32) < 2000000 := by decide
  obtain ⟨b, built, exactly⟩ := micros_rounds_once num_pos den_pos
  obtain ⟨words, n, only, value⟩ := exactly .nearest (-1)
  have same : b = ⟨1, 2000000, by decide, by decide⟩ := (Except.ok.inj built).symm
  have stamp : b.micros .nearest (-1) = -1 := by
    rw [same]
    decide
  have minus : (-1 : Int64).toInt = -1 := by decide
  have half : ((-1 : Int64).toInt * (1 : Int32).toInt * 1000000 / (2000000 : Int32).toInt : ℚ) = -1 / 2 := by
    rw [minus, show (1 : Int32).toInt = 1 from rfl, show (2000000 : Int32).toInt = 2000000 from rfl]
    norm_num
  rw [stamp, minus, Int64.toInt_minValue, Int64.toInt_maxValue] at value
  rw [half] at only
  refine ⟨num_pos, den_pos, b, built, words.trans (congrArg some stamp), (only (-1)).2 ?_⟩
  omega

end TimeBase

end PlanarPipe
