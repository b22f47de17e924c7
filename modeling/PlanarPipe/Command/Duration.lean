import PlanarPipe.Bytes.Basic
import PlanarPipe.Text.Blank
import PlanarPipe.Text.Number
import PlanarPipe.Command.Exit

/-!
# Durations

A duration is given as a whole number of seconds or, with the unit `ms`, of milliseconds. It is never
zero.
-/

namespace PlanarPipe

structure Duration where
  millis : Nat
  deriving DecidableEq, Repr

namespace Duration

def seconds (d : Duration) : Nat := d.millis / 1000

/-- Nanoseconds beyond the whole seconds. -/
def nanos (d : Duration) : Nat := d.millis % 1000 * 1000000

/-- The units in which a duration is given. -/
inductive Scale where
  | seconds
  | millis

/-- The milliseconds that a unit counts for. -/
def Scale.weight : Scale → Nat
  | .seconds => 1000
  | .millis => 1

/-- The number and the unit of a trimmed text: `ms`, `s`, or no unit, which means seconds. -/
def split (text : List Char) : List Char × Scale :=
  match text.reverse with
  | 's' :: 'm' :: number => (number.reverse, .millis)
  | 's' :: number => (number.reverse, .seconds)
  | _ => (text, .seconds)

def ofText (input : List Char) : Except Failure Duration :=
  let text := Text.trim input
  if text.isEmpty then .error ⟨Exit.usage, "duration must not be empty"⟩
  else
    let (number, unit) := split text
    match Text.readNat Bytes.maxWord number with
    | .error _ => .error ⟨Exit.usage, s!"invalid duration value: {String.ofList text}"⟩
    | .ok 0 => .error ⟨Exit.usage, "duration must be greater than zero"⟩
    | .ok n => .ok ⟨n * unit.weight⟩

/-- A duration in seconds, or in milliseconds if it is shorter than one second. -/
def text (d : Duration) : String :=
  if d.millis = 0 then "0ns"
  else if d.seconds = 0 then s!"{d.millis}ms"
  else
    let rest := d.millis % 1000
    let places := [rest / 100, rest / 10 % 10, rest % 10].reverse.dropWhile (· == 0) |>.reverse
    if places.isEmpty then s!"{d.seconds}s"
    else s!"{d.seconds}.{String.join (places.map toString)}s"

end Duration

end PlanarPipe
