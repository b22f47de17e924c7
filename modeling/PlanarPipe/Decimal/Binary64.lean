/-!
# Double precision

A double is a mantissa of 53 bits times a power of two. `Binary64.ofRatio` is the double nearest to a
quotient, of two equally near the one with the even mantissa.
-/

namespace PlanarPipe

/-- The number `mantissa * 2 ^ exponent`. Unless it is zero the mantissa has 53 bits. -/
structure Binary64 where
  mantissa : Nat
  exponent : Int
  deriving DecidableEq, Repr

/-- A quotient rounded to the nearest whole number, a half to the even neighbour. -/
def roundHalfEven (n d : Nat) : Nat :=
  let q := n / d
  let twice := 2 * (n % d)
  if twice < d then q else if d < twice then q + 1 else q + q % 2

namespace Binary64

/-- The number of bits of a mantissa. -/
def precision : Nat := 53

def zero : Binary64 := ⟨0, 0⟩

/-- The quotient `n * 2 ^ -e / d` as a pair of natural numbers. -/
def scale (n d : Nat) (e : Int) : Nat × Nat := (n * Nat.pow 2 (-e).toNat, d * Nat.pow 2 e.toNat)

/-- The double nearest to `n / d`, for quotients within the range of doubles with a full mantissa. -/
def ofRatio (n d : Nat) : Binary64 :=
  if n = 0 ∨ d = 0 then zero
  else
    let low : Int := (n.log2 : Int) - d.log2 - precision
    let whole (e : Int) : Nat := (scale n d e).1 / (scale n d e).2
    let e := if whole low < Nat.pow 2 precision then low else low + 1
    let m := roundHalfEven (scale n d e).1 (scale n d e).2
    if m = Nat.pow 2 precision then ⟨Nat.pow 2 (precision - 1), e + 1⟩ else ⟨m, e⟩

/-- The number as a quotient of natural numbers. -/
def ratio (x : Binary64) : Nat × Nat :=
  (x.mantissa * Nat.pow 2 x.exponent.toNat, Nat.pow 2 (-x.exponent).toNat)

end Binary64

end PlanarPipe
