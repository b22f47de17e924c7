import PlanarPipe.Video.Error

/-!
# Time stamps

Frames carry ticks of the stream's time base. On the wire every frame carries whole microseconds:
the exact product of ticks and time base, rounded once and kept within 64 bits.
-/

namespace PlanarPipe

/-- Seconds per tick, as a quotient of positive numbers. -/
structure TimeBase where
  num : Int32
  den : Int32
  num_pos : 0 < num
  den_pos : 0 < den
  deriving DecidableEq

/-- What becomes of the part of a time stamp below a microsecond. -/
inductive Rounding where
  | towardZero
  /-- The nearest microsecond is taken, of two equally near the one farther from zero. -/
  | nearest
  deriving DecidableEq, Repr

namespace Rounding

/-- The rounding of a stream that asks for none in particular. -/
def standard : Rounding := .towardZero

def name : Rounding → String
  | towardZero => "Truncate"
  | nearest => "NearestTiesAway"

def divide (r : Rounding) (n d : Nat) : Nat :=
  match r with
  | towardZero => n / d
  | nearest => (n + d / 2) / d

end Rounding

/-- An integer as a signed 64-bit word: integers outside the range become its nearer end. -/
def clampInt64 (i : Int) : Int64 :=
  Int64.ofInt (max Int64.minValue.toInt (min Int64.maxValue.toInt i))

namespace TimeBase

/-- A time base, if both of its parts are positive. -/
def build (num den : Int32) : Except FrameError TimeBase :=
  if h : 0 < num ∧ 0 < den then .ok ⟨num, den, h.1, h.2⟩ else .error (.badTimeBase num den)

def microseconds : TimeBase := ⟨1, 1000000, by decide, by decide⟩

def text (b : TimeBase) : String := s!"{b.num}/{b.den}"

/-- The distance of a tick from zero, in microseconds times the denominator. -/
def scaled (b : TimeBase) (ticks : Int64) : Nat := ticks.toInt.natAbs * b.num.toInt.toNat * 1000000

/-- The distance of a tick from zero in whole microseconds. -/
def magnitude (b : TimeBase) (r : Rounding) (ticks : Int64) : Nat :=
  r.divide (b.scaled ticks) b.den.toInt.toNat

/-- A tick in whole microseconds, within 64 bits. -/
def micros (b : TimeBase) (r : Rounding) (ticks : Int64) : Int64 :=
  let distance : Int := b.magnitude r ticks
  clampInt64 (if ticks < 0 then -distance else distance)

end TimeBase

/-- How the time stamps of a stream are counted and rounded. -/
structure Timing where
  base : TimeBase
  rounding : Rounding := .standard
  deriving DecidableEq

namespace Timing

/-- The time stamp of a frame in microseconds; a frame without one counts as zero. -/
def stamp (t : Timing) : Option Int64 → Int64
  | some ticks => t.base.micros t.rounding ticks
  | none => 0

end Timing

end PlanarPipe
