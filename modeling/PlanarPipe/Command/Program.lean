import PlanarPipe.Command.Read
import PlanarPipe.Command.Stream
import PlanarPipe.Command.Version
import PlanarPipe.Log.Line

/-!
# The program

The program reads its command line, runs the command that it asks for, logs what happens, and tells at
last why the command failed or was broken off, if it was.
-/

namespace PlanarPipe

/-- The world that the program runs in, as far as it has to do with the program. -/
structure World where
  /-- The file system as time goes by, in milliseconds. -/
  scene : Nat → FileTree
  /-- What others write into the pipe that is read, before they close it. -/
  inflow : Bytes := []
  /-- What comes of waiting for a reader. -/
  arrival : Arrival
  /-- What the reader's pipe answers to write calls. -/
  outlet : Outlet := .unlimited
  /-- Where printouts go. -/
  output : Output := .healthy
  terminal : Bool := false
  /-- How many frames are sent before the user interrupts the program. -/
  patience : Nat
  host : Host
  /-- The name of the program, under which its commands are told in the log. -/
  name : String := "yuvpipe"

/-- What is left of a program that has ended. -/
structure Execution where
  code : Nat
  printed : Bytes := []
  notes : List String := []
  /-- What went into its pipe. -/
  sent : Bytes := []
  tree : FileTree

namespace Program

def perform (w : World) (i : Invocation) : Run :=
  let format := i.formatFor w.terminal
  match i.task with
  | .stream task => task.run format w.output w.arrival w.outlet w.patience (w.scene 0)
  | .read task => task.run format w.output w.scene w.inflow
  | .version full =>
    let ended : Run := { tree := w.scene 0 }
    ended.say w.output (if full then Version.extended w.host else Version.short)

/-- What is told at last about a command that failed or was broken off. -/
def complaint (log : LogStyle) (name : String) (r : Run) : List String :=
  match r.crash with
  | some crash => crash.message :: log.lines name crash.events
  | none => (r.failure.map fun f => s!"error: {f.message}").toList

/-- Runs the program. A command line that cannot be run has its own code; what is told about it is not
fixed here. Telling the version in place of running a command does not need an output that is open. -/
def run (w : World) (env : List (String × String)) (words : List String) : Execution :=
  match Invocation.ofWords env words with
  | .error fault =>
    let text := if fault = .version then Version.short else ""
    { code := fault.code, tree := w.scene 0
      printed := (w.output.print (.text text)).toOption.getD [] }
  | .ok i =>
    let r := perform w i
    { code := r.code, printed := r.printed, sent := r.sent, tree := r.tree
      notes := i.log.lines w.name r.events ++ complaint i.log w.name r }

end Program

end PlanarPipe
