import PlanarPipe.Log.Event
import PlanarPipe.Text.Json

/-!
# Log lines

An event is written on one line, as text or as a JSON object. The part of the program an event comes from
is told only when details are asked for.
-/

namespace PlanarPipe

inductive LogFormat where
  | text
  | json
  deriving DecidableEq, Repr

namespace LogFormat

/-- The log format that a word asks for. -/
def ofWord? : String → Option LogFormat
  | "text" => some .text
  | "json" => some .json
  | _ => none

end LogFormat

structure LogStyle where
  format : LogFormat
  /-- The least grave level that is told. -/
  level : Level
  deriving DecidableEq, Repr

namespace LogStyle

/-- The part of the program an event comes from is told. -/
def detailed (s : LogStyle) : Bool := s.level == .debug || s.level == .trace

/-- An event as a line of text. -/
def textLine (s : LogStyle) (program : String) (e : Event) : String :=
  let origin := if s.detailed then s!"{e.origin.path program}: " else ""
  let fields := e.fields.map fun (name, value) => s!" {name}={value.text}"
  s!"{e.level.name} {origin}{e.message}{String.join fields}"

def jsonValue : EventValue → JsonValue
  | .number n => .whole n
  | .words text => .text text

def jsonLine (s : LogStyle) (program : String) (e : Event) : String :=
  let origin := if s.detailed then [("target", JsonValue.text (e.origin.path program))] else []
  JsonValue.object
    ([("level", .text e.level.name), ("message", .text e.message)] ++
      e.fields.map (fun (name, value) => (name, jsonValue value)) ++ origin)

/-- The lines for the events of `program`, of those that are to be told. -/
def lines (s : LogStyle) (program : String) (events : List Event) : List String :=
  (events.filter (·.level.shownAt s.level)).map fun e =>
    match s.format with
    | .text => s.textLine program e
    | .json => s.jsonLine program e

end LogStyle

end PlanarPipe
