import PlanarPipe.Text.Width.Ligature
import PlanarPipe.Text.Width.Pictograph

/-!
# Pictures of several characters

A picture may be made of several characters: a person with a colour of skin, two letters that make a flag,
a flag with the tags of a region, or pictures with joiners between them. All of them take two columns. A
text is read from its end: what has been read of a picture is kept in mind as a `Compound` until it is known
whether more belongs to it.
-/

namespace PlanarPipe.Text

/-- What has been read of a picture that may be made of several characters. -/
inductive Compound where
  | modifier
  | flagLetter
  /-- Two halves of a flag, or more. -/
  | flagLetters
  /-- A picture that is complete. -/
  | whole
  /-- A picture with a joiner before it. -/
  | joined
  /-- The same with the frame of a key before it. -/
  | key
  /-- The same with one half of a flag before it. -/
  | joinedLetter
  /-- The same with an even number of halves before it. -/
  | joinedEven
  /-- The same with an odd number of halves before it, three or more. -/
  | joinedOdd
  /-- The same with the tags of a region before it, of which only letters have been read. -/
  | tagLetters (count : Nat)
  /-- The same, with digits read last. -/
  | tagDigits (count : Nat)
  deriving DecidableEq, Repr

namespace Compound

def isJoinable : Compound → Bool
  | modifier | flagLetters | whole | joinedEven | joinedOdd => true
  | _ => false

/-- A character that the next picture is joined to: what it adds to the columns, and what has then been
read. -/
def joinTo? (c : Char) : Option (Int × Compound) :=
  if isFlagLetter c then some (1, joinedLetter)
  else if isModifier c then some (0, modifier)
  else if isPictograph c then some (0, whole)
  else match c.toNat with
    | 0x20E3 => some (0, key)
    | 0xE007F => some (0, tagLetters 0)
    | _ => none

def isTagLetter (c : Char) : Bool := isIn #[(0xE0061, 0xE007A)] c

def isTagDigit (c : Char) : Bool := isIn #[(0xE0030, 0xE0039)] c

/-- The black flag, which regions are tagged to. -/
def isBlackFlag (c : Char) : Bool := c.toNat == 0x1F3F4

/-- What the character before a picture adds to the columns, and what has then been read; `none` if the
character does not belong to the picture. -/
def before? (p : Compound) (c : Char) : Option (Int × Compound) :=
  if p.isJoinable && c == joiner then some (0, joined)
  else match p with
    | modifier => if isPerson c then some (0, whole) else none
    | flagLetter | flagLetters => if isFlagLetter c then some (1, flagLetters) else none
    | joined => joinTo? c
    | joinedLetter | joinedOdd => if isFlagLetter c then some (-1, joinedEven) else none
    | joinedEven => if isFlagLetter c then some (3, joinedOdd) else none
    | tagLetters n =>
      if isTagLetter c then if n < 6 then some (0, tagLetters (n + 1)) else none
      else if isTagDigit c then if n < 5 then some (0, tagDigits 1) else none
      else if isBlackFlag c && 3 ≤ n then some (0, whole)
      else none
    | tagDigits n =>
      if isTagDigit c then if n < 3 then some (0, tagDigits (n + 1)) else none
      else if isBlackFlag c && n == 3 then some (0, whole)
      else none
    | whole | key => none

end Compound

end PlanarPipe.Text
