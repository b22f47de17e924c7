import PlanarPipe.Bytes.Basic
import PlanarPipe.Command.Grammar
import PlanarPipe.Log.Line
import PlanarPipe.Report.Format
import PlanarPipe.Text.Number

/-!
# Invocations

What the program can be asked to do, and how it is asked on the command line.
-/

namespace PlanarPipe

structure StreamTask where
  path : String
  width : UInt32
  height : UInt32
  /-- How many frames; zero for no end. -/
  frames : Nat
  fps : Int32
  pad : Nat
  resizeEvery : Option UInt64
  noPts : Bool
  realtime : Bool
  deriving DecidableEq, Repr

structure ReadTask where
  path : String
  count : Option Nat
  wait : Option String
  deriving DecidableEq, Repr

inductive Task where
  | stream (t : StreamTask)
  | read (t : ReadTask)
  | version (extended : Bool)
  deriving DecidableEq, Repr

/-- A command line that asks for something. -/
structure Invocation where
  format : Option Format
  log : LogStyle
  task : Task
  deriving DecidableEq, Repr

namespace Invocation

/-- The format to print in: the one asked for, else one that suits a terminal or another program. -/
def formatFor (i : Invocation) (terminal : Bool) : Format :=
  i.format.getD (if terminal then .pretty else .json)

/-- The variables of the environment that are looked at. -/
def environmentNames (options : List Parameter) : List String := options.filterMap (·.standIn)

def number (name : String) (least most : Nat) : Parameter where
  name := name
  judge := some fun value =>
    match Text.readNat most value.toList with
    | .ok n => if n < least then some .badValue else none
    | .error _ => some .badValue

/-- A value that is one of some words. -/
def oneOf (name : String) (known : String → Bool) (standIn : Option String) : Parameter where
  name := name
  judge := some fun value => if known value then none else some .noSuchValue
  standIn := standIn

def flag (name : String) : Parameter where
  name := name
  judge := none

/-- The path of a pipe; it may not be empty. -/
def path : Parameter where
  name := "path"
  judge := some fun value => if value.isEmpty then some .noSuchValue else none

def common : List Parameter :=
  [oneOf "format" (fun w => (Format.ofWord? w).isSome) none,
    oneOf "log-format" (fun w => (LogFormat.ofWord? w).isSome) (some "YUVPIPE_LOG_FORMAT"),
    oneOf "log-level" (fun w => (Level.ofWord? w).isSome) (some "YUVPIPE_LOG_LEVEL")]

def maxSide : Nat := 0xFFFF_FFFF

/-- The greatest signed number of 32 bits. -/
def maxRate : Nat := 0x7FFF_FFFF

def program : Grammar where
  options := common
  places := []
  commands := ["stream", "read", "version", "help"]
  hasVersion := true

/-- The command that streams the test pattern. -/
def streamCommand : Grammar where
  options :=
    [number "width" 1 maxSide, number "height" 1 maxSide, number "frames" 0 Bytes.maxWord,
      number "fps" 1 maxRate, number "pad" 0 Bytes.maxWord, number "resize-every" 1 Bytes.maxWord,
      flag "no-pts", flag "realtime"] ++ common
  places := [path]
  commands := []
  hasVersion := false

def readCommand : Grammar where
  options := [number "count" 0 Bytes.maxWord, { name := "wait", judge := some fun _ => none }] ++ common
  places := [path]
  commands := []
  hasVersion := false

def versionCommand : Grammar where
  options := flag "extended" :: common
  places := []
  commands := []
  hasVersion := false

/-- A number that was given for an option. -/
def numberOf (s : Scan) (name : String) : Option Nat :=
  (s.value? name).bind fun value => (Text.readNat Bytes.maxWord value.toList).toOption

/-- What the words of a command ask for. -/
def taskOf (command : String) (s : Scan) : Task :=
  let path := (s.value? "path").getD ""
  let given (name : String) := (s.value? name).isSome
  match command with
  | "stream" => .stream
      { path
        width := UInt32.ofNat ((numberOf s "width").getD 320)
        height := UInt32.ofNat ((numberOf s "height").getD 240)
        frames := (numberOf s "frames").getD 100
        fps := Int32.ofNat ((numberOf s "fps").getD 30)
        pad := (numberOf s "pad").getD 0
        resizeEvery := (numberOf s "resize-every").map UInt64.ofNat
        noPts := given "no-pts"
        realtime := given "realtime" }
  | "read" => .read { path, count := numberOf s "count", wait := s.value? "wait" }
  | _ => .version (given "extended")

def grammarOf : String → Grammar
  | "stream" => streamCommand
  | "read" => readCommand
  | _ => versionCommand

/-- The value of a common option: that of the command, unless the program's comes from a stronger
source. -/
def commonValue (outer inner : Scan) (name : String) : Option String :=
  let find (s : Scan) := s.given.find? (·.name == name)
  match find outer, find inner with
  | some o, some i =>
    some (if o.origin = .commandLine ∧ i.origin = .environment then o.value else i.value)
  | some o, none => some o.value
  | none, some i => some i.value
  | none, none => none

/-- The words after `help` name the command that help is wanted for. -/
def help : List String → UsageFault
  | [] => .help
  | [command] => if program.commands.contains command then .help else .unknownCommand
  | _ => .unknownCommand

def ofWords (env : List (String × String)) (words : List String) : Except UsageFault Invocation :=
  (program.scan program.start words).bind fun (outer, command?) =>
    match command? with
    | none =>
      (program.finish env outer).bind fun s =>
        .error (if s.given.isEmpty then .nothingGiven else .missingCommand)
    | some ("help", names) => .error (help names)
    | some (command, rest) => do
      let g := grammarOf command
      let (inner, _) ← g.scan g.start rest
      let inner ← g.finish env inner
      if inner.places.isEmpty then
        let outer ← program.finish env outer
        let value := commonValue outer inner
        .ok
          { format := (value "format").bind Format.ofWord?
            log :=
              { format := ((value "log-format").bind LogFormat.ofWord?).getD .text
                level := ((value "log-level").bind Level.ofWord?).getD .info }
            task := taskOf command inner }
      else .error .missingArgument

end Invocation

end PlanarPipe
