import PlanarPipe.Command.Duration
import PlanarPipe.Command.Invocation
import PlanarPipe.Command.Run
import PlanarPipe.Fifo.Reader
import PlanarPipe.Report.Record
import PlanarPipe.Stream.Receiver

/-!
# Reading a pipe

The command attaches to a pipe, for which it may wait, and prints the records that come out of it until
the stream ends, enough pictures are printed, or nobody takes what it prints.
-/

namespace PlanarPipe.ReadTask

/-- The milliseconds between two looks at the path. -/
def pause : Nat := 25

/-- There is a pipe at a path. -/
def hasFifo (t : FileTree) (path : String) : Bool :=
  match t.inspect path with
  | .ok (.fifo _) => true
  | _ => false

def overdue (path : String) (limit : Duration) : Failure :=
  ⟨Exit.timeout, s!"no fifo at {path} after {limit.text}"⟩

/-- Waits for a pipe. `scene` is the file system as time goes by, in milliseconds; the result is the time
at which the pipe is found. -/
def await (path : String) (limit : Duration) (scene : Nat → FileTree) (now : Nat) : Except Failure Nat :=
  if hasFifo (scene now) path then .ok now
  else if _ : now < limit.millis then await path limit scene (now + pause)
  else .error (overdue path limit)
termination_by limit.millis - now
decreasing_by simp only [pause]; omega

structure Relay where
  printed : Bytes := []
  events : List Event := []
  failure : Option Failure := none
  deriving DecidableEq

def event (level : Level) (message : String) (fields : List (String × EventValue)) : Event :=
  { level, origin := .readCommand, message, fields }

/-- What the end of the stream means after so many pictures. -/
def finish (frames : Nat) : Option Reception → Relay
  | some (.failed cause) => { failure := some (Exit.ofFrameError "read failed" cause) }
  | some (.record _) | some .unaddressable | none =>
    { events := [event .info "writer closed the pipe" [("frames", .number frames)]] }

/-- Prints a record after so many pictures; tells besides how many there are then, unless nothing more is
to be printed. -/
def relayOne (format : Format) (output : Output) (count : Option Nat) (frames : Nat) (record : Record) :
    Relay × Option Nat :=
  match output.print (Report.record format record) with
  | .error cause =>
    ({ events := [event .debug "stdout closed, detaching from fifo"
        [("frames", .number frames), ("err", .words cause.message)]]
       failure := some (Exit.ofIoError "write to stdout failed" cause) }, none)
  | .ok printed =>
    match record with
    | .announcement _ => ({ printed }, some frames)
    | .picture _ =>
      let frames := frames + 1
      if count.any (· ≤ frames) then
        ({ printed, events := [event .debug "frame count reached" [("frames", .number frames)]] }, none)
      else ({ printed }, some frames)

/-- Prints records one after the other until enough pictures are printed or printing fails. -/
def relay (format : Format) (output : Output) (count : Option Nat) (ending : Option Reception) :
    Nat → List Record → Relay
  | frames, [] => finish frames ending
  | frames, record :: later =>
    match relayOne format output count frames record with
    | (relayed, none) => relayed
    | (relayed, some frames) =>
      let rest := relay format output count ending frames later
      { rest with printed := relayed.printed ++ rest.printed }

def relayFrom (task : ReadTask) (format : Format) (output : Output) (source : Source) : Relay :=
  let (records, ending, _) := (Receiver.start source Wire.standardLimit).records
  relay format output task.count ending 0 records

/-- The time at which the command attaches to its pipe. -/
def moment (task : ReadTask) (scene : Nat → FileTree) : Except Failure Nat :=
  match task.wait with
  | none => .ok 0
  | some text => (Duration.ofText text.toList).bind fun limit => await task.path limit scene 0

/-- The event of having attached to the pipe. -/
def attached (task : ReadTask) : Event :=
  event .info "attached to fifo" [("path", .words (Text.quoted task.path))]

/-- Runs the command. `inflow` is what others write into the pipe before they close it. -/
def run (task : ReadTask) (format : Format) (output : Output) (scene : Nat → FileTree)
    (inflow : Bytes) : Run :=
  match task.moment scene with
  | .error failure => { tree := scene 0, failure := some failure }
  | .ok now =>
    let tree := scene now
    let (opening, end?) := PipeEnd.attach task.path tree true
    match end? with
    | .error e => { tree, events := opening, failure := some (Exit.ofFifoError "attach failed" e) }
    | .ok file =>
      let relayed := task.relayFrom format output (file.source tree inflow)
      { tree, printed := relayed.printed, events := opening ++ [task.attached] ++ relayed.events
        failure := relayed.failure }

end PlanarPipe.ReadTask
