import PlanarPipe.Posix.Errno

/-!
# Input and output errors

An error is either a number from the system, or a kind alone, or a kind with a text of its own.
-/

namespace PlanarPipe

/-- Why an input or output operation failed. -/
inductive IoError where
  | system (number : Errno)
  | bare (kind : ErrorKind)
  | worded (kind : ErrorKind) (text : String)
  deriving DecidableEq, Repr

namespace IoError

def kind : IoError → ErrorKind
  | system number => number.kind
  | bare kind => kind
  | worded kind _ => kind

/-- What is told about an error: for a system error its text and number. -/
def message : IoError → String
  | system number => s!"{number.text} (os error {number.code})"
  | bare kind => kind.description
  | worded _ text => text

/-- The call was interrupted before it did anything, so that it may simply be repeated. -/
def isInterrupted (e : IoError) : Bool := e.kind == .interrupted

end IoError

end PlanarPipe
