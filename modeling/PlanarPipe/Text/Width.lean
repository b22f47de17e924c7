import PlanarPipe.Text.Width.Compound
import PlanarPipe.Text.Width.Wide

/-!
# Display width

How many columns of a terminal a text takes: two for wide characters, none for marks, one for all others.
Characters that are shown as one, ligatures and pictures, take the columns of what is shown. The text is
read from its end, since it is the later character that tells whether the one before it belongs to it.
-/

namespace PlanarPipe.Text

/-- A character that selects how the one before it is shown. -/
inductive Selector where
  | picture
  | text
  /-- As wide as an ideograph, if it is a quotation mark. -/
  | wideQuote
  deriving DecidableEq, Repr

def Selector.ofChar? (c : Char) : Option Selector :=
  match c.toNat with
  | 0xFE0F => some .picture
  | 0xFE0E => some .text
  | 0xFE01 => some .wideQuote
  | _ => none

/-- What a character may belong to that has been read after it. -/
inductive Follower where
  | none
  | ligature (l : Ligature)
  | compound (p : Compound)
  deriving DecidableEq, Repr

/-- What has been read of a text from its end. -/
structure Context where
  follower : Follower := .none
  selector : Option Selector := none
  deriving DecidableEq, Repr

namespace Context

/-- The context once its selector has been passed by. Only a ligature is left of it. -/
def unselected (k : Context) : Context :=
  match k.selector, k.follower with
  | none, _ => k
  | some _, .ligature l => { follower := .ligature l }
  | some _, _ => {}

/-- The context with a selector before it. Of pictures, only one that waits for the picture it is joined to
is still there. -/
def select (k : Context) (s : Selector) : Context :=
  match k.follower, s with
  | .ligature l, _ => { follower := if l.keepsSelectors then .ligature l else .none, selector := some s }
  | .compound .joined, .picture => { k with selector := some s }
  | .compound .key, .picture => { k with selector := some s }
  | _, _ => { selector := some s }

/-- A picture that is selected here is joined to one that has its columns already. -/
def isJoined (k : Context) : Bool := k.follower == .compound .joined || k.follower == .compound .key

end Context

/-- The columns of a character that stands alone. -/
def columns (c : Char) : Nat :=
  if c.toNat == 0x17D8 then 3
  else if c.toNat == 0x17A4 then 2
  else if isColumnless c then 0
  else if isWide c then 2
  else 1

/-- A quotation mark that can be as wide as an ideograph. -/
def isQuote (c : Char) : Bool := c == '‘' || c == '’' || c == '“' || c == '”'

/-- The columns of a character that belongs to nothing after it, and what the one before it may belong to. -/
def alone (c : Char) : Int × Context :=
  match Ligature.ofChar? c with
  | some l => (1, { follower := .ligature l })
  | none =>
    if isFlagLetter c then (1, { follower := .compound .flagLetter })
    else if isModifier c then (2, { follower := .compound .modifier })
    else if isPictograph c then (2, { follower := .compound .whole })
    else (columns c, {})

/-- The columns that a character adds before `k`, and what has then been read, if its selector does not
concern it. -/
def beforeFollower (c : Char) (k : Context) : Int × Context :=
  match k.follower with
  | .none => alone c
  | .ligature l =>
    match l.before? c with
    | some (n, some rest) => (n, { follower := .ligature rest })
    | some (n, none) => (n, {})
    | none => alone c
  | .compound p =>
    match p.before? c with
    | some (n, rest) => (n, { follower := .compound rest })
    | none => alone c

/-- The columns that a character adds to what has been read after it, and what has then been read. -/
def before (c : Char) (k : Context) : Int × Context :=
  if k.selector = some .picture ∧ hasTwoForms c then
    (if k.isJoined then 0 else 2, { follower := .compound .whole })
  else if c.toNat ≤ 0xA0 then (1, {})
  else match Selector.ofChar? c with
    | some s => (0, (if k.selector = some .picture then k.unselected else k).select s)
    | none =>
      if k.selector = some .text ∧ hasNarrowForm c then (1, {})
      else if k.selector = some .wideQuote ∧ isQuote c then (2, {})
      else beforeFollower c k.unselected

def width (text : String) : Nat :=
  (text.toList.foldr (fun c (sum, k) => let (n, rest) := before c k; (sum + n, rest)) ((0 : Int), {})).1.toNat

end PlanarPipe.Text
