import PlanarPipe.Text.Quoted

/-!
# JSON objects

Objects on one line, with their members in the given order and no blanks.
-/

namespace PlanarPipe

inductive JsonValue where
  | null
  | truth (b : Bool)
  | whole (n : Int)
  /-- A number that is written already. -/
  | number (written : String)
  | text (s : String)
  deriving DecidableEq, Repr

namespace JsonValue

def escape (c : Char) : List Char :=
  match c with
  | '"' => ['\\', '"']
  | '\\' => ['\\', '\\']
  | '\x08' => ['\\', 'b']
  | '\x0c' => ['\\', 'f']
  | '\n' => ['\\', 'n']
  | '\r' => ['\\', 'r']
  | '\t' => ['\\', 't']
  | c =>
    if c.toNat < 0x20 then
      ['\\', 'u', '0', '0', Nat.digitChar (c.toNat / 16), Nat.digitChar (c.toNat % 16)]
    else [c]

def string (s : String) : String := .ofList (['"'] ++ s.toList.flatMap escape ++ ['"'])

def write : JsonValue → String
  | .null => "null"
  | .truth b => toString b
  | .whole n => toString n
  | .number written => written
  | .text s => string s

def object (members : List (String × JsonValue)) : String :=
  let parts := members.map fun (name, value) => s!"{string name}:{value.write}"
  "\x7b" ++ ",".intercalate parts ++ "\x7d"

end JsonValue

end PlanarPipe
