import PlanarPipe.Text.Extender
import PlanarPipe.Text.Printable

/-!
# Quoted paths

A path between quotation marks, with the characters that would not be seen, or would end the quotation,
written as escapes.
-/

namespace PlanarPipe.Text

/-- The hexadecimal digits of a number, in lower case. -/
def hex (n : Nat) : List Char := Nat.toDigits 16 n

def escapeQuoted (c : Char) : List Char :=
  match c with
  | '\x00' => ['\\', '0']
  | '\t' => ['\\', 't']
  | '\r' => ['\\', 'r']
  | '\n' => ['\\', 'n']
  | '"' => ['\\', '"']
  | '\\' => ['\\', '\\']
  | c => if isExtender c || isUnprintable c then ['\\', 'u', '\x7b'] ++ hex c.toNat ++ ['\x7d'] else [c]

def quoted (path : String) : String :=
  .ofList (['"'] ++ path.toList.flatMap escapeQuoted ++ ['"'])

end PlanarPipe.Text
