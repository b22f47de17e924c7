/-!
# Reading whole numbers

A whole number is written with ASCII digits, after a plus sign or, where negative numbers are asked
for, a minus sign. A number is refused at its first character that is no digit or takes it out of the
range, whichever comes first.
-/

namespace PlanarPipe.Text

/-- Why a text is no number of a range. -/
inductive NumberFault where
  | empty
  | invalidDigit
  | tooLarge
  | tooSmall
  deriving DecidableEq, Repr

/-- What a fault is called in messages. -/
def NumberFault.name : NumberFault → String
  | empty => "Empty"
  | invalidDigit => "InvalidDigit"
  | tooLarge => "PosOverflow"
  | tooSmall => "NegOverflow"

def digit? (c : Char) : Option Nat := if c.isDigit then some (c.toNat - '0'.toNat) else none

/-- Reads digits after the number `acc`, up to `max`; beyond that the fault is `excess`. -/
def readDigits (max : Nat) (excess : NumberFault) (acc : Nat) : List Char → Except NumberFault Nat
  | [] => .ok acc
  | c :: rest =>
    match digit? c with
    | none => .error .invalidDigit
    | some d =>
      let n := 10 * acc + d
      if max < n then .error excess else readDigits max excess n rest

/-- Reads a number from zero to `max`. -/
def readNat (max : Nat) : List Char → Except NumberFault Nat
  | [] => .error .empty
  | ['+'] => .error .invalidDigit
  | '+' :: digits => readDigits max .tooLarge 0 digits
  | digits => readDigits max .tooLarge 0 digits

/-- Reads a number from `-min` to `max`. -/
def readInt (min max : Nat) : List Char → Except NumberFault Int
  | ['-'] => .error .invalidDigit
  | '-' :: digits => (readDigits min .tooSmall 0 digits).map fun n => -(n : Int)
  | text => (readNat max text).map fun n => (n : Int)

end PlanarPipe.Text
