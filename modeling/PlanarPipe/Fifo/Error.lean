import PlanarPipe.Stream.EncodeError
import PlanarPipe.Video.Error

/-!
# What can go wrong with a named pipe

Why a pipe could not be made, opened or used, and why a session over one failed.
-/

namespace PlanarPipe

/-- Why an operation on a named pipe failed. -/
inductive FifoError where
  | notMade (path : String) (cause : IoError)
  | notOpened (path : String) (cause : IoError)
  | alreadyOpen (path : String)
  | notOpen
  | stream (cause : IoError)
  deriving DecidableEq, Repr

namespace FifoError

/-- The error of the system behind this one, if there is one. -/
def cause : FifoError → Option IoError
  | notMade _ cause | notOpened _ cause | stream cause => some cause
  | alreadyOpen _ | notOpen => none

def message : FifoError → String
  | notMade path cause => s!"failed to create fifo {path}: {cause.message}"
  | notOpened path cause => s!"failed to open fifo {path}: {cause.message}"
  | alreadyOpen path => s!"fifo {path} is already open"
  | notOpen => "fifo is not open"
  | stream cause => s!"transport I/O error: {cause.message}"

/-- The text of the error behind this one, if there is one. -/
def source (e : FifoError) : Option String := e.cause.map IoError.message

end FifoError

/-- Why an operation on a session failed: its pipe failed, or its stream. -/
inductive SessionError where
  | fifo (e : FifoError)
  | encode (e : EncodeError)
  deriving DecidableEq, Repr

namespace SessionError

def message : SessionError → String
  | fifo e => e.message
  | encode e => e.message

/-- The text of the error behind this one, if there is one. -/
def source : SessionError → Option String
  | fifo e => e.source
  | encode e => e.source

end SessionError

end PlanarPipe
