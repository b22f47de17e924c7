import PlanarPipe.Stream.EncodeError
import PlanarPipe.Fifo.Error

/-!
# Exit codes

How a command ends: with a code alone, or with a code and a message. The code of a failure depends on
its cause.
-/

namespace PlanarPipe

/-- A failed command: its exit code, and what is told about it. -/
structure Failure where
  code : Nat
  message : String
  deriving DecidableEq, Repr

namespace Exit

def success : Nat := 0

/-- The command could not do its work. -/
def failure : Nat := 1

/-- The pipe could not be made, opened or written. -/
def transport : Nat := 3

def denied : Nat := 50

/-- The data are not in the format. -/
def badData : Nat := 60

/-- The command was called in a wrong way. -/
def usage : Nat := 64

def timeout : Nat := 124

def internal : Nat := 125

/-- The program was broken off in the midst of its work. -/
def crashed : Nat := 101

def ofIoError (context : String) (e : IoError) : Failure :=
  let code := match e.kind with
    | .permissionDenied => denied
    | .timedOut | .wouldBlock => timeout
    | .brokenPipe => failure
    | _ => internal
  ⟨code, s!"{context}: {e.message}"⟩

def ofFifoError (context : String) : FifoError → Failure
  | .stream cause => ofIoError context cause
  | e =>
    let code := match e.cause.map IoError.kind with
      | some .permissionDenied => denied
      | _ => transport
    ⟨code, s!"{context}: {e.message}"⟩

/-- A stream that could not be read, or a frame that could not be made. -/
def ofFrameError (context : String) (e : FrameError) : Failure :=
  let message := s!"{context}: {e.message}"
  match e with
  | .readFailed cause => ofIoError context cause
  | .ended => ⟨failure, message⟩
  | .badTimeBase .. | .emptySize _ => ⟨usage, message⟩
  | _ => ⟨badData, message⟩

def ofEncodeError (context : String) (e : EncodeError) : Failure :=
  ⟨if e.isReaderGone then failure else transport, s!"{context}: {e.message}"⟩

def ofSessionError (context : String) : SessionError → Failure
  | .fifo e => ofFifoError context e
  | .encode e => ofEncodeError context e

end Exit

end PlanarPipe
