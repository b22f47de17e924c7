import PlanarPipe.Command.Exit
import PlanarPipe.Log.Event
import PlanarPipe.Posix.FileTree
import PlanarPipe.Report.Record
import PlanarPipe.Stream.Outlet

/-!
# Runs

What a command has done when it ends. A command that fails tells why. One that has something to say and finds its
output closed is broken off, with a code of its own.
-/

namespace PlanarPipe

/-- A command that was broken off because it could not print. -/
structure Crash where
  cause : IoError
  /-- What is logged while the command gives up what it holds. -/
  events : List Event := []

structure Run where
  printed : Bytes := []
  calls : List WriteCall := []
  events : List Event := []
  tree : FileTree
  failure : Option Failure := none
  crash : Option Crash := none

/-- What is told of a crash. Where in the program it was is told besides, and not fixed here. -/
def Crash.message (c : Crash) : String := s!"failed printing to stdout: {c.cause.message}"

namespace Run

def code (r : Run) : Nat :=
  match r.crash with
  | some _ => Exit.crashed
  | none => r.failure.elim Exit.success (·.code)

/-- The bytes that went into the pipe. -/
def sent (r : Run) : Bytes := r.calls.flatMap WriteCall.taken

/-- Prints what must not be left unsaid, and logs `later` when the command gives up what it holds. A closed output
breaks the command off, so that nothing is told of how it has fared. -/
def say (r : Run) (output : Output) (text : String) (later : List Event := []) : Run :=
  match output.print (.text text) with
  | .ok printed => { r with printed := r.printed ++ printed, events := r.events ++ later }
  | .error cause => { r with failure := none, crash := some { cause, events := later } }

end Run

end PlanarPipe
