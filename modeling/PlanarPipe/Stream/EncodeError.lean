import PlanarPipe.Posix.IoError

/-!
# What can go wrong in writing

Why a record did not go out, and why a frame did not.
-/

namespace PlanarPipe

/-- The parts that are written with one call each. -/
inductive Part where
  | announcement
  | stamp
  | payload
  deriving DecidableEq, Repr

/-- What a part is called in messages. -/
def Part.text : Part → String
  | announcement => "dimension record"
  | stamp => "timestamp"
  | payload => "frame payload"

/-- Why one write call did not do its work. -/
inductive WriteFailure where
  | readerGone
  /-- The outlet took another number of bytes than it was offered. -/
  | short (written expected : Nat)
  /-- There is no room to put a frame together. -/
  | noRoom (size : Nat)
  | failed (cause : IoError)
  deriving DecidableEq, Repr

namespace WriteFailure

/-- The failure that an error stands for: a broken pipe is a reader that is gone. -/
def ofIoError (cause : IoError) : WriteFailure :=
  if cause.kind = .brokenPipe then readerGone else failed cause

def message : WriteFailure → String
  | readerGone => "reader disconnected"
  | short written expected => s!"short write ({written}/{expected} bytes)"
  | noRoom size => s!"failed to allocate {size} byte frame buffer"
  | failed cause => cause.message

end WriteFailure

inductive EncodeError where
  /-- A part could not be written; the stream has ended. -/
  | transportFailed (part : Part) (failure : WriteFailure)
  | stopped
  | notOpen
  deriving DecidableEq, Repr

namespace EncodeError

def message : EncodeError → String
  | transportFailed part failure => s!"failed to write {part.text}: {failure.message}"
  | stopped => "sink stopped after an earlier write failure"
  | notOpen => "sink is not open"

/-- The text of the error behind this one, if there is one. -/
def source : EncodeError → Option String
  | transportFailed _ failure => some failure.message
  | _ => none

/-- The frame was not written because the reader is gone. -/
def isReaderGone : EncodeError → Bool
  | transportFailed _ .readerGone => true
  | _ => false

end EncodeError

end PlanarPipe
