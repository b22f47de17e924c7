import PlanarPipe.Proofs.Video.Rescaling
import PlanarPipe.Wire.Record

/-!
# The order of time stamps

What a tick stands for is a multiple of the length of a tick (`TimeBase.instant_eq_mul`). It grows with the
tick, and so does what it is rounded to (`TimeBase.whole_mono`). Where a tick is as long as a microsecond or
longer, no two ticks are rounded to the same integer (`TimeBase.whole_lt`), and opposite ticks are always
rounded to opposite integers (`TimeBase.whole_neg`). The time stamp is that integer unless 64 bits do not hold
it (`TimeBase.Clamped`). Main statement: `Timing.stamps_keep_order`.
-/

namespace PlanarPipe

/-- The opposite of a tick is its opposite as a number, but for the earliest tick, which has none. -/
lemma toInt_neg_of_ne {ticks : Int64} (inside : ticks ≠ Int64.minValue) : (-ticks).toInt = -ticks.toInt := by
  have least := ticks.minValue_le_toInt
  have most := ticks.toInt_le
  have apart : ticks.toInt ≠ Int64.minValue.toInt := fun same => inside (Int64.toInt_inj.1 same)
  rw [Int64.toInt_minValue] at least apart
  rw [Int64.toInt_maxValue] at most
  rw [Int64.toInt_neg]
  apply Int.bmod_eq_of_le <;> omega

/-- Time stamps that differ are written differently. -/
lemma Wire.encodeStamp_ne {early late : Int64} (apart : early ≠ late) : encodeStamp early ≠ encodeStamp late :=
  fun same => apart <| by rw [← decodeStamp_encodeStamp early, same, decodeStamp_encodeStamp]

namespace TimeBase

/-- 64 bits do not hold what a tick stands for, rounded. -/
def Clamped (b : TimeBase) (r : Rounding) (ticks : Int64) : Prop :=
  ∃ n, r.Rounds (b.instant ticks) n ∧ (n < Int64.minValue.toInt ∨ Int64.maxValue.toInt < n)

/-- The microseconds from one tick to the next. -/
def tick (b : TimeBase) : ℚ := b.num.toInt * 1000000 / b.den.toInt

variable {b : TimeBase} {r : Rounding} {ticks early late : Int64}

/-- A tick is clamped just if the number it is rounded to is outside 64 bits. -/
lemma clamped_iff : b.Clamped r ticks ↔
    b.whole r ticks < Int64.minValue.toInt ∨ Int64.maxValue.toInt < b.whole r ticks := by
  have rounds := b.whole_rounds r ticks
  constructor
  · rintro ⟨n, other, outside⟩
    rwa [other.unique rounds] at outside
  · exact fun outside => ⟨_, rounds, outside⟩

/-- A time stamp is the rounded number, kept within 64 bits. -/
lemma toInt_micros (b : TimeBase) (r : Rounding) (ticks : Int64) : (b.micros r ticks).toInt =
    max Int64.minValue.toInt (min Int64.maxValue.toInt (b.whole r ticks)) := by
  rw [micros_eq, toInt_clampInt64]

/-- A tick is a positive fraction of a second: its denominator is above zero. -/
lemma toInt_den_pos (b : TimeBase) : (0 : ℚ) < b.den.toInt := by
  have positive := Int32.lt_iff_toInt_lt.1 b.den_pos
  exact_mod_cast positive

/-- Ticks are apart from each other. -/
lemma tick_pos (b : TimeBase) : 0 < b.tick := by
  have positive := Int32.lt_iff_toInt_lt.1 b.num_pos
  have num : (0 : ℚ) < b.num.toInt := by exact_mod_cast positive
  exact div_pos (mul_pos num (by norm_num)) b.toInt_den_pos

/-- Ticks of a time base that counts no finer than microseconds are a microsecond apart, or more. -/
lemma one_le_tick (long : b.den.toInt ≤ b.num.toInt * 1000000) : 1 ≤ b.tick := by
  rw [tick, le_div_iff₀ b.toInt_den_pos, one_mul]
  exact_mod_cast long

/-- A tick stands for as many steps as it counts. -/
lemma instant_eq_mul (b : TimeBase) (ticks : Int64) : b.instant ticks = ticks.toInt * b.tick := by
  rw [instant, tick, mul_assoc, mul_div_assoc]

/-- A later tick is not rounded to an earlier microsecond. -/
lemma whole_mono (le : early ≤ late) : b.whole r early ≤ b.whole r late := by
  apply (b.whole_rounds r early).mono (b.whole_rounds r late)
  rw [instant_eq_mul, instant_eq_mul]
  have cast : (early.toInt : ℚ) ≤ late.toInt := by exact_mod_cast Int64.le_iff_toInt_le.1 le
  exact mul_le_mul_of_nonneg_right cast b.tick_pos.le

/-- Ticks that are as long as a microsecond are not rounded to the same one. -/
lemma whole_lt (long : b.den.toInt ≤ b.num.toInt * 1000000) (earlier : early < late) :
    b.whole r early < b.whole r late := by
  have tick : 1 ≤ b.tick := one_le_tick long
  have next : (early.toInt + 1 : ℚ) ≤ late.toInt := by exact_mod_cast Int64.lt_iff_toInt_lt.1 earlier
  apply (b.whole_rounds r early).lt (b.whole_rounds r late)
  · rw [instant_eq_mul, instant_eq_mul]
    calc early.toInt * b.tick + 1
        ≤ early.toInt * b.tick + b.tick := by gcongr
      _ = (early.toInt + 1) * b.tick := by ring
      _ ≤ late.toInt * b.tick := mul_le_mul_of_nonneg_right next b.tick_pos.le
  · -- no tick but zero is nearer to zero than a microsecond
    rw [instant_eq_mul]
    rcases lt_or_ge early.toInt 0 with before | after
    · left
      have one : (early.toInt : ℚ) ≤ -1 := by exact_mod_cast Int.le_sub_one_of_lt before
      nlinarith
    · right
      exact mul_nonneg (by exact_mod_cast after) b.tick_pos.le

/-- Opposite ticks are rounded to opposite integers. -/
lemma whole_neg (inside : ticks ≠ Int64.minValue) : b.whole r (-ticks) = -b.whole r ticks := by
  have rounds := b.whole_rounds r (-ticks)
  rw [instant_eq_mul, toInt_neg_of_ne inside, Int.cast_neg, neg_mul, ← instant_eq_mul] at rounds
  exact rounds.unique (b.whole_rounds r ticks).neg

end TimeBase

open TimeBase

/-- Of two ticks the later one never has the earlier time stamp. If a tick is as long as a microsecond or
longer, it has a later one, and the two are written differently, unless one of them is out of range. Opposite
ticks have opposite time stamps; if one of them is out of range, they have the two ends of the range. The
nearest microsecond is at most one from the one toward zero, and not nearer to zero. -/
theorem Timing.stamps_keep_order (b : TimeBase) :
    let stamp := fun r ticks => Timing.stamp ⟨b, r⟩ (some ticks)
    (∀ r early late, early < late →
      stamp r early ≤ stamp r late ∧
        (b.den.toInt ≤ b.num.toInt * 1000000 → ¬b.Clamped r early → ¬b.Clamped r late →
          stamp r early < stamp r late ∧ Wire.encodeStamp (stamp r early) ≠ Wire.encodeStamp (stamp r late))) ∧
    (∀ r ticks, ticks ≠ Int64.minValue →
      (¬b.Clamped r ticks → ¬b.Clamped r (-ticks) → (stamp r (-ticks)).toInt = -(stamp r ticks).toInt) ∧
        (b.Clamped r ticks ∨ b.Clamped r (-ticks) →
          stamp r ticks = Int64.maxValue ∧ stamp r (-ticks) = Int64.minValue ∨
            stamp r ticks = Int64.minValue ∧ stamp r (-ticks) = Int64.maxValue)) ∧
    ∀ ticks,
      |(stamp .nearest ticks).toInt - (stamp .towardZero ticks).toInt| ≤ 1 ∧
        |(stamp .towardZero ticks).toInt| ≤ |(stamp .nearest ticks).toInt| := by
  intro stamp
  have value : ∀ r ticks, (stamp r ticks).toInt = _ := b.toInt_micros
  have least := Int64.toInt_minValue
  have most := Int64.toInt_maxValue
  refine ⟨?order, ?opposite, ?roundings⟩
  case order =>
    intro r early late earlier
    have order : b.whole r early ≤ b.whole r late := whole_mono (Int64.le_of_lt earlier)
    rw [Int64.le_iff_toInt_le, Int64.lt_iff_toInt_lt]
    refine ⟨by rw [value, value]; omega, fun long inside inside' => ?_⟩
    rw [clamped_iff] at inside inside'
    have strict : b.whole r early < b.whole r late := whole_lt long earlier
    have apart : (stamp r early).toInt < (stamp r late).toInt := by
      rw [value, value]
      omega
    exact ⟨apart, Wire.encodeStamp_ne fun same => apart.ne (congrArg Int64.toInt same)⟩
  -- rounding does not see the sign, but the range reaches one further below zero than above
  case opposite =>
    intro r ticks inside
    have opposite : b.whole r (-ticks) = -b.whole r ticks := whole_neg inside
    simp only [clamped_iff, ← Int64.toInt_inj, value, opposite]
    omega
  case roundings =>
    intro ticks
    have cut := b.whole_rounds .towardZero ticks
    have roundings := Rounding.nearest_of_towardZero cut (b.whole_rounds .nearest ticks)
    simp only [Int.abs_eq_natAbs, value]
    omega

/-- Ticks of one and a half microseconds on both sides of zero. -/
theorem Timing.stamps_keep_order_across_zero :
    let b : TimeBase := ⟨3, 2000000, by decide, by decide⟩
    (-1 : Int64) < 0 ∧ Timing.stamp ⟨b, .towardZero⟩ (some (-1)) < Timing.stamp ⟨b, .towardZero⟩ (some 0) ∧
      (-1 : Int64) ≠ Int64.minValue ∧ ¬b.Clamped .nearest (-1) ∧ ¬b.Clamped .nearest (-(-1)) ∧
      (Timing.stamp ⟨b, .nearest⟩ (some (-(-1)))).toInt = -(Timing.stamp ⟨b, .nearest⟩ (some (-1))).toInt := by
  intro b
  have inside : ∀ r, ¬b.Clamped r (-1) ∧ ¬b.Clamped r 0 ∧ ¬b.Clamped r (-(-1)) := by
    intro r
    rw [clamped_iff, clamped_iff, clamped_iff]
    cases r <;> decide
  obtain ⟨order, opposite, -⟩ := Timing.stamps_keep_order b
  have strict := (order .towardZero (-1) 0 (by decide)).2 (by decide) (inside _).1 (inside _).2.1
  have mirrored := (opposite .nearest (-1) (by decide)).1 (inside _).1 (inside _).2.2
  exact ⟨by decide, strict.1, by decide, (inside _).1, (inside _).2.2, mirrored⟩

end PlanarPipe
