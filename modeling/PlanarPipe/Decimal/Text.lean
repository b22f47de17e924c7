import PlanarPipe.Decimal.Shortest

/-!
# Writing doubles

Two ways to write a double: with its shortest digits, in positional notation unless it is very large
or very small; and with one decimal place.
-/

namespace PlanarPipe

/-- Where positional notation ends: the least and the greatest place of the decimal point counted from
before the first digit. -/
structure DecimalFormat where
  least : Int
  greatest : Int
  deriving DecidableEq, Repr

namespace DecimalFormat

/-- Positional down to five places after the point, and up to sixteen before it. -/
def standard : DecimalFormat := ⟨-4, 16⟩

def zeros (n : Int) : String := "".pushn '0' n.toNat

/-- A decimal in this format. A whole number is written with one decimal place. -/
def write (f : DecimalFormat) (d : Decimal) : String :=
  let digits := Nat.toDigits 10 d.digits
  let text := String.ofList digits
  let point : Int := digits.length + d.exponent
  if d.digits = 0 then "0.0"
  else if 0 ≤ d.exponent ∧ point ≤ f.greatest then s!"{text}{zeros d.exponent}.0"
  else if 0 < point ∧ point ≤ f.greatest then
    let whole := digits.take point.toNat
    s!"{String.ofList whole}.{String.ofList (digits.drop point.toNat)}"
  else if f.least ≤ point ∧ point ≤ 0 then s!"0.{zeros (-point)}{text}"
  else
    let fraction := String.ofList (digits.drop 1)
    let mark := if fraction.isEmpty then "" else "."
    s!"{String.ofList (digits.take 1)}{mark}{fraction}e{point - 1}"

end DecimalFormat

namespace Binary64

def text (x : Binary64) : String := DecimalFormat.standard.write x.shortest

/-- A double with one decimal place, a half rounded to the even digit. -/
def textOnePlace (x : Binary64) : String :=
  let (n, d) := x.ratio
  let tenths := roundHalfEven (10 * n) d
  s!"{tenths / 10}.{tenths % 10}"

end Binary64

end PlanarPipe
