/-!
# Ranges of characters

Sets of characters as sorted ranges of code points, and whether a character belongs to one.
-/

namespace PlanarPipe.Text

/-- Looks for a code point among the ranges from `low` up to `high`, by halving. -/
def inRanges (table : Array (Nat × Nat)) (cp : Nat) (low high : Nat) : Bool :=
  if low < high then
    let middle := (low + high) / 2
    let (first, last) := table.getD middle (0, 0)
    if cp < first then inRanges table cp low middle
    else if last < cp then inRanges table cp (middle + 1) high
    else true
  else false
termination_by high - low

/-- The character lies in one of the ranges of a sorted table. -/
def isIn (table : Array (Nat × Nat)) (c : Char) : Bool := inRanges table c.toNat 0 table.size

end PlanarPipe.Text
