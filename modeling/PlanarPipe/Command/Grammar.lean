/-!
# Command lines

A command line is read word by word against the options, places and commands of a level. A word that
starts with two hyphens names an option; its value follows after an equals sign or as the next word.
Two hyphens alone end the options. A value is taken in only when the word after it has been looked at,
so that of two faults it is not always the first that is found.
-/

namespace PlanarPipe

/-- Why a command line asks for nothing that can be run. -/
inductive UsageFault where
  | help
  | version
  | nothingGiven
  | missingArgument
  | missingCommand
  | unknownArgument
  | unknownCommand
  /-- The value of an option does not lie in its range. -/
  | badValue
  /-- The value of an option is missing or none of those it may have. -/
  | noSuchValue
  | repeated
  /-- An option that takes no value is given one. -/
  | unwantedValue
  deriving DecidableEq, Repr

/-- Help and version are no errors. -/
def UsageFault.code : UsageFault → Nat
  | help | version => 0
  | _ => 2

/-- An option or a place of a command line. -/
structure Parameter where
  name : String
  /-- What is wrong with a value; none if the parameter is a flag, which has no value. -/
  judge : Option (String → Option UsageFault)
  /-- The environment variable that stands in for the option. -/
  standIn : Option String := none

/-- Where a value comes from, the weaker source first. -/
inductive Origin where
  | environment
  | commandLine
  deriving DecidableEq, Repr

/-- A value that was given for a parameter. -/
structure Given where
  name : String
  value : String
  origin : Origin
  deriving DecidableEq, Repr

/-- A level of a command line: the program itself, or one of its commands. -/
structure Grammar where
  options : List Parameter
  places : List Parameter
  commands : List String
  hasVersion : Bool

/-- How far a command line has been read. -/
structure Scan where
  given : List Given := []
  /-- A parameter whose value is not taken in yet, or not even known. -/
  pending : Option (Parameter × Option String) := none
  /-- The last word was an option whose value is the next word. -/
  awaiting : Bool := false
  places : List Parameter
  optionsEnded : Bool := false

namespace Scan

def value? (s : Scan) (name : String) : Option String := (s.given.find? (·.name == name)).map (·.value)

/-- Takes in a value: it must be the first for its parameter, and in order. -/
def give (s : Scan) (p : Parameter) (value : String) : Except UsageFault Scan :=
  if (s.value? p.name).isSome then .error .repeated
  else
    match p.judge.bind fun judge => judge value with
    | some fault => .error fault
    | none => .ok { s with given := s.given ++ [⟨p.name, value, .commandLine⟩] }

/-- Takes in the value that is pending. -/
def settle (s : Scan) : Except UsageFault Scan :=
  match s.pending with
  | none => .ok s
  | some (_, none) => .error .noSuchValue
  | some (p, some value) => { s with pending := none }.give p value

end Scan

namespace Grammar

def start (g : Grammar) : Scan := { places := g.places }

/-- Asks for help or the version, unless a value before is out of order. -/
def ask (what : UsageFault) (s : Scan) : Except UsageFault Scan :=
  s.settle.bind fun _ => .error what

/-- A word that starts with two hyphens. -/
def long (g : Grammar) (s : Scan) (word : List Char) : Except UsageFault Scan :=
  let name := String.ofList (word.takeWhile (· != '='))
  let attached : Option String := match word.dropWhile (· != '=') with
    | _ :: value => some (String.ofList value)
    | [] => none
  let builtIn (what : UsageFault) := if attached.isSome then .error .unwantedValue else ask what s
  if name = "help" then builtIn .help
  else if name = "version" ∧ g.hasVersion then builtIn .version
  else
    match g.options.find? (·.name == name) with
    | none => .error .unknownArgument
    | some p =>
      match p.judge, attached with
      | none, some _ => .error .unwantedValue
      | none, none => s.settle.bind fun s => { s with awaiting := false }.give p "true"
      | some _, some value => s.settle.bind fun s => { s with awaiting := false }.give p value
      | some _, none => s.settle.map fun s => { s with pending := some (p, none), awaiting := true }

/-- A word that starts with one hyphen: only its first letter counts. -/
def short (g : Grammar) (s : Scan) (word : List Char) : Except UsageFault Scan :=
  match word with
  | 'h' :: _ => ask .help s
  | 'V' :: _ => if g.hasVersion then ask .version s else .error .unknownArgument
  | _ => .error .unknownArgument

/-- A word that is no option: the value of the next place. -/
def place (g : Grammar) (s : Scan) (word : String) : Except UsageFault Scan :=
  match s.places with
  | p :: places => s.settle.map fun s => { s with pending := some (p, some word), places, awaiting := false }
  | [] =>
    if g.commands.isEmpty then .error .unknownArgument
    else if s.optionsEnded ∧ g.commands.contains word then .error .unknownArgument
    else .error .unknownCommand

/-- Reads words up to the end or to a command. -/
def scan (g : Grammar) (s : Scan) : List String → Except UsageFault (Scan × Option (String × List String))
  | [] => .ok (s, none)
  | word :: rest =>
    let goOn (r : Except UsageFault Scan) :=
      match r with
      | .error fault => .error fault
      | .ok s => scan g s rest
    if s.optionsEnded then goOn (g.place s word)
    else if ¬ s.awaiting ∧ g.commands.contains word then .ok (s, some (word, rest))
    else
      match word.toList with
      | ['-', '-'] => scan g { s with optionsEnded := true } rest
      | '-' :: '-' :: name => goOn (g.long s name)
      | '-' :: letter :: more => goOn (g.short s (letter :: more))
      | _ =>
        if s.awaiting then
          scan g { s with pending := s.pending.map fun (p, _) => (p, some word), awaiting := false } rest
        else goOn (g.place s word)

/-- Values from the environment for the options that are not given. -/
def addEnvironment (env : List (String × String)) (s : Scan) : List Parameter → Except UsageFault Scan
  | [] => .ok s
  | p :: later =>
    let value? := p.standIn.bind fun v => (env.find? (·.1 == v)).map (·.2)
    match value?, s.value? p.name with
    | some value, none =>
      match p.judge.bind fun judge => judge value with
      | some fault => .error fault
      | none => addEnvironment env { s with given := s.given ++ [⟨p.name, value, .environment⟩] } later
    | _, _ => addEnvironment env s later

/-- The end of a level: everything pending is taken in, and the environment. -/
def finish (g : Grammar) (env : List (String × String)) (s : Scan) : Except UsageFault Scan :=
  s.settle.bind fun s => addEnvironment env s g.options

end Grammar

end PlanarPipe
