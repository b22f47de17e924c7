import PlanarPipe.Decimal.Binary64

/-!
# The shortest decimal of a double

Of the decimals that are nearer to a double than to any other, the one with the fewest digits; of
several of that length the one nearest to the double.
-/

namespace PlanarPipe

/-- The number `digits * 10 ^ exponent`. -/
structure Decimal where
  digits : Nat
  exponent : Int
  deriving DecidableEq, Repr

namespace Binary64

/-- The numbers that round to a double, as bounds in units of `2 ^ (exponent - 2)`: the lower and the
upper one. Below a power of two the doubles lie twice as close. -/
def bounds (x : Binary64) : Nat × Nat :=
  let m := 4 * x.mantissa
  (if x.mantissa = Nat.pow 2 (precision - 1) then m - 1 else m - 2, m + 2)

/-- The decimal rounds to the double. The bounds themselves do if the mantissa is even. -/
def holds (x : Binary64) (d : Decimal) : Bool :=
  let unit := x.exponent - 2
  -- both sides of a comparison with `k * 2 ^ unit`, made whole
  let left := d.digits * Nat.pow 10 d.exponent.toNat * Nat.pow 2 (-unit).toNat
  let right (k : Nat) := k * Nat.pow 2 unit.toNat * Nat.pow 10 (-d.exponent).toNat
  let (low, high) := x.bounds
  if x.mantissa % 2 = 0 then right low ≤ left && left ≤ right high
  else right low < left && left < right high

/-- The power of ten of the first digit. -/
def magnitude (x : Binary64) : Int :=
  let (n, d) := x.ratio
  if d ≤ n then (Nat.toDigits 10 (n / d)).length - 1
  else -(((List.range 400).find? fun k => d ≤ n * Nat.pow 10 k).getD 0 : Nat)

/-- The decimals with a step of `10 ^ e` on both sides of the double, the nearer one first; if both are
equally near, the even one. -/
def neighbours (x : Binary64) (e : Int) : List Decimal :=
  let (n, d) := x.ratio
  let (n, d) := (n * Nat.pow 10 (-e).toNat, d * Nat.pow 10 e.toNat)
  let near := roundHalfEven n d
  let far := if near = n / d then near + 1 else n / d
  [⟨near, e⟩, ⟨far, e⟩]

/-- The shortest decimal, trying from one digit up to seventeen. -/
def shortest (x : Binary64) : Decimal :=
  if x.mantissa = 0 then ⟨0, 0⟩
  else
    let top := x.magnitude
    let candidates := (List.range 17).flatMap fun more : Nat => x.neighbours (top - more)
    (candidates.find? x.holds).getD ⟨0, 0⟩

end Binary64

end PlanarPipe
