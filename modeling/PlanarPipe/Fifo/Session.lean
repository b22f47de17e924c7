import PlanarPipe.Fifo.Owner
import PlanarPipe.Stream.Encoder

/-!
# Sessions

A session writes frames into a pipe of its own: it owns the pipe, and while the pipe is open it has an
encoder, a new one each time.
-/

namespace PlanarPipe

/-- A writer of frames with its own named pipe. -/
structure Session where
  owner : Owner
  encoder : Option Encoder := none
  deriving DecidableEq

/-- What opening or closing a session comes to. -/
structure Turn where
  session : Session
  tree : FileTree
  events : List Event := []
  failure : Option SessionError := none
  deriving DecidableEq

/-- What becomes of a frame that is handed to a session. -/
structure Push where
  session : Session
  calls : List WriteCall := []
  /-- What the pipe has not answered yet. -/
  outlet : Outlet
  events : List Event := []
  failure : Option SessionError := none

namespace Session

/-- A session that has done nothing yet. -/
def start (path : String) (mode : Nat) : Session := { owner := .start path mode }

def isOpen (s : Session) : Bool := s.owner.isOpen

/-- The stream has ended with a failed write. -/
def isStopped (s : Session) : Bool := s.encoder.any (·.stopped)

/-- Opens the pipe and starts a stream. -/
def openStreamWithin (refuses : Refusals) (s : Session) (timing : Timing) (arrival : Arrival)
    (t : FileTree) : Turn :=
  let opened := s.owner.openFifoWithin refuses arrival t
  match opened.failure with
  | some e =>
    { session := { s with owner := opened.owner }, tree := opened.tree, events := opened.events
      failure := some (.fifo e) }
  | none =>
    let started : Event :=
      { level := .info, origin := .sink, message := "streaming YUV420P frames with timestamps"
        fields := [("path", .words (Text.quoted s.owner.path)), ("time_base", .words timing.base.text)] }
    { session := { owner := opened.owner, encoder := some (.start timing) }
      tree := opened.tree
      events := opened.events ++ [started] }

def openStream (s : Session) (timing : Timing) (arrival : Arrival) (t : FileTree) : Turn :=
  s.openStreamWithin granted timing arrival t

/-- Writes a frame, if there is a stream and it has not ended. `room` tells which buffers can be had. -/
def pushWithin (room : Nat → Bool) (s : Session) (f : Frame) (outlet : Outlet) : Push :=
  match s.encoder with
  | none => { session := s, outlet, failure := some (.encode .notOpen) }
  | some encoder =>
    if encoder.stopped then { session := s, outlet, failure := some (.encode .stopped) }
    else if s.owner.isOpen then
      let a := encoder.pushWithin room f outlet
      { session := { s with encoder := some a.encoder }
        calls := a.calls
        outlet := a.outlet
        events := a.events
        failure := a.failure.map .encode }
    else { session := s, outlet, failure := some (.encode .notOpen) }

def push (s : Session) (f : Frame) (outlet : Outlet) : Push := s.pushWithin Encoder.plenty f outlet

/-- Ends the stream, if there is one, and closes the pipe. -/
def closeWithin (refuses : Refusals) (s : Session) (t : FileTree) : Turn :=
  let ended : List Event := s.encoder.toList.map fun e =>
    { level := .info, origin := .sink, message := "frame pipe sink closed"
      fields := [("frames", .number e.frames), ("bytes", .number e.bytes)] }
  let closed := s.owner.closeWithin refuses t
  { session := { owner := closed.owner }, tree := closed.tree, events := ended ++ closed.events }

def close (s : Session) (t : FileTree) : Turn := s.closeWithin granted t

end Session

end PlanarPipe
