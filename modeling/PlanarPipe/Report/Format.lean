/-!
# Output formats

The forms in which records and summaries are printed.
-/

namespace PlanarPipe

inductive Format where
  | json
  | table
  | pretty
  | raw
  deriving DecidableEq, Repr

namespace Format

/-- The word that asks for a format. -/
def word : Format → String
  | json => "json"
  | table => "table"
  | pretty => "pretty"
  | raw => "raw"

def all : List Format := [json, table, pretty, raw]

/-- The format that a word asks for. -/
def ofWord? (word : String) : Option Format := all.find? (·.word == word)

end Format

end PlanarPipe
