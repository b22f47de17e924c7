import PlanarPipe.Text.Width.Mark

/-!
# Ligatures

Letters of some scripts merge with the letters before them, so that together they take fewer columns than
alone. A text is read from its end: a letter that may merge is kept in mind as a `Ligature` until the
letter before it is known.
-/

namespace PlanarPipe.Text

/-- The end of a ligature. Where it depends on a joiner, `joined` tells that one has been read. -/
inductive Ligature where
  | alef
  | lamed (joined : Bool)
  /-- A Khmer letter that can stand below another one. -/
  | lowered
  | ya (joined : Bool)
  /-- A Buginese ya with the vowel i before it. -/
  | yaWithI
  | consonant (joined : Bool)
  /-- A Tifinagh consonant with the consonant joiner before it. -/
  | tiedConsonant
  /-- The second part of a Lisu tone. -/
  | tone
  | turkicI (joined : Bool)
  | kiratE
  | kiratAi
  deriving DecidableEq, Repr

def isAlef (c : Char) : Bool :=
  isIn #[(0x622, 0x623), (0x625, 0x625), (0x627, 0x627), (0x671, 0x673), (0x675, 0x675), (0x773, 0x774),
    (0x870, 0x882)] c

def isLam (c : Char) : Bool :=
  isIn #[(0x644, 0x644), (0x6B5, 0x6B8), (0x76A, 0x76A), (0x8A6, 0x8A6), (0x8C7, 0x8C7)] c

/-- A Khmer letter that can stand below another one. -/
def isLowerable (c : Char) : Bool :=
  isIn #[(0x1780, 0x1782), (0x1784, 0x1787), (0x1789, 0x178C), (0x178E, 0x1793), (0x1795, 0x1798),
    (0x179B, 0x179D), (0x17A0, 0x17A0), (0x17A2, 0x17A2), (0x17A7, 0x17A7), (0x17AB, 0x17AC),
    (0x17AF, 0x17AF)] c

def isConsonant (c : Char) : Bool := isIn #[(0x2D31, 0x2D65), (0x2D6F, 0x2D6F)] c

/-- The joiner of zero width. -/
def joiner : Char := '\u200d'

namespace Ligature

def ofChar? (c : Char) : Option Ligature :=
  if isAlef c then some alef
  else if isLowerable c then some lowered
  else if isConsonant c then some (consonant false)
  else if isIn #[(0xA4FC, 0xA4FD)] c then some tone
  else match c.toNat with
    | 0x05DC => some (lamed false)
    | 0x1A10 => some (ya false)
    | 0x10C03 => some (turkicI false)
    | 0x16D67 => some kiratE
    | 0x16D68 => some kiratAi
    | _ => none

/-- Selectors within the ligature do not end it. -/
def keepsSelectors : Ligature → Bool
  | kiratE | kiratAi => false
  | _ => true

/-- Ignorable marks and joiners within the ligature do not end it. -/
def skipsMarks : Ligature → Bool
  | alef | kiratE | kiratAi => false
  | _ => true

/-- The ligature after a joiner has been read. -/
def join : Ligature → Ligature
  | lamed _ => lamed true
  | ya _ => ya true
  | consonant _ => consonant true
  | turkicI _ => turkicI true
  | l => l

/-- What a letter that merges adds to the columns, and the ligature that goes on, if one does. -/
def merge? (l : Ligature) (c : Char) : Option (Int × Option Ligature) :=
  match l, c.toNat with
  | alef, _ =>
    if isLam c then some (0, none) else if isJoinedAcross c then some (0, some alef) else none
  | lamed true, 0x05D0 => some (0, none)
  | lowered, 0x17D2 => some (-1, none)
  | ya true, 0x1A17 => some (0, some yaWithI)
  | yaWithI, 0x1A15 => some (0, none)
  | consonant _, 0x2D7F => some (1, some tiedConsonant)
  | consonant true, _ => if isConsonant c then some (0, none) else none
  | tiedConsonant, _ => if isConsonant c then some (-1, none) else none
  | tone, _ => if isIn #[(0xA4F8, 0xA4FB)] c then some (0, none) else none
  | turkicI true, 0x10C32 => some (0, none)
  | kiratE, 0x16D63 => some (0, none)
  | kiratE, 0x16D67 => some (0, some kiratAi)
  | kiratE, 0x16D68 => some (1, some kiratE)
  | kiratE, 0x16D69 => some (0, none)
  | kiratAi, 0x16D63 => some (0, none)
  | _, _ => none

/-- What the character before a ligature adds to the columns, and the ligature that goes on, if one does;
`none` if the character has nothing to do with the ligature. -/
def before? (l : Ligature) (c : Char) : Option (Int × Option Ligature) :=
  if l.skipsMarks && c == joiner then some (0, some l.join)
  else if l.skipsMarks && isIgnorableMark c then some (0, some l)
  else l.merge? c

end Ligature

end PlanarPipe.Text
