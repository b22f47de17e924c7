/-!
# Bytes and sizes

Byte strings are lists of bytes. Sizes are natural numbers; where the format counts in 64-bit words
a size that does not fit is replaced by the largest word, `Bytes.saturate`.
-/

namespace PlanarPipe

abbrev Bytes := List UInt8

namespace Bytes

/-- The largest number a 64-bit word holds. -/
def maxWord : Nat := 0xFFFF_FFFF_FFFF_FFFF

/-- A size as a 64-bit word: sizes beyond the largest word become the largest word. -/
def saturate (n : Nat) : Nat := min n maxWord

/-- A saturated number is a word. -/
@[simp] theorem saturate_le (n : Nat) : saturate n ≤ maxWord := Nat.min_le_right ..

/-- A number that a word holds is not changed. -/
theorem saturate_of_le {n : Nat} (h : n ≤ maxWord) : saturate n = n := Nat.min_eq_left h

end Bytes

end PlanarPipe
