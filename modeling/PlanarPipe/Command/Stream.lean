import PlanarPipe.Command.Invocation
import PlanarPipe.Command.Run
import PlanarPipe.Fifo.Session
import PlanarPipe.Report.Record
import PlanarPipe.Report.Summary
import PlanarPipe.Video.Pattern

/-!
# Streaming the test pattern

The command makes a pipe, waits for a reader, sends frames of the test pattern until all are sent, the
user interrupts it or a frame cannot be sent, and prints a summary, if it can.
-/

namespace PlanarPipe.StreamTask

/-- The size of the frames, before any change. -/
def size (task : StreamTask) : Size := ⟨task.width, task.height⟩

/-- The time stamp of a frame, in ticks. -/
def pts (task : StreamTask) (index : Nat) : Option Int64 :=
  if task.noPts then none else some (Int64.ofNat index)

/-- A stream of frames, as far as it has come. -/
structure Progress where
  session : Session
  pattern : Pattern
  /-- What the pipe will answer. -/
  outlet : Outlet
  /-- The time stamp of the last frame that was sent. -/
  lastStamp : Option Int64 := none

inductive Halt where
  /-- Nothing more is to be sent. -/
  | finished
  | unmade (cause : FrameError)
  | unsent (cause : SessionError)
  deriving DecidableEq

structure Sending where
  progress : Progress
  halt : Halt
  calls : List WriteCall := []
  events : List Event := []

/-- Sends `count` frames from frame `index` on. -/
def send (task : StreamTask) (index : Nat) (p : Progress) : Nat → Sending
  | 0 => { progress := p, halt := .finished }
  | count + 1 =>
    let number := UInt64.ofNat index
    let pts := task.pts index
    let (frame, pattern) := p.pattern.render (Pattern.sizeAt task.size number task.resizeEvery) number pts
    match frame with
    | .error cause => { progress := { p with pattern }, halt := .unmade cause }
    | .ok frame =>
      let pushed := p.session.push frame p.outlet
      let p : Progress := { p with session := pushed.session, pattern, outlet := pushed.outlet }
      match pushed.failure with
      | some cause =>
        let told : Event :=
          { level := .warn, origin := .streamCommand, message := "push failed, stopping stream"
            fields := [("frame", .number index), ("err", .words cause.message)] }
        { progress := p, halt := .unsent cause, calls := pushed.calls, events := pushed.events ++ [told] }
      | none =>
        let p := { p with lastStamp := p.session.encoder.map fun e => e.timing.stamp pts }
        let later := send task (index + 1) p count
        { later with calls := pushed.calls ++ later.calls, events := pushed.events ++ later.events }

/-- How many frames are sent if nothing fails: as many as are asked for, but none after the user has
interrupted the command, which happens after `patience` frames. -/
def length (task : StreamTask) (patience : Nat) : Nat :=
  if task.frames = 0 then patience else min task.frames patience

def summary (task : StreamTask) (p : Progress) : Summary :=
  { path := task.path
    frames := p.session.encoder.elim 0 (·.frames)
    bytes := p.session.encoder.elim 0 (·.bytes)
    lastStamp := p.lastStamp
    stopped := p.session.isStopped }

/-- The failure of the command, if the frames were not all sent. -/
def Halt.failure : Halt → Option Failure
  | .finished => none
  | .unmade cause => some (Exit.ofFrameError "render failed" cause)
  | .unsent cause => some (Exit.ofSessionError "push failed" cause)

/-- Closes the session that frames were sent with, and prints the summary, unless a frame could not be
made. A session is closed once more when it is given up, also where the summary cannot be printed. -/
def conclude (task : StreamTask) (format : Format) (output : Output) (t : FileTree) (sending : Sending) :
    Run :=
  let p := sending.progress
  match sending.halt with
  | .unmade _ =>
    let left := p.session.close t
    { tree := left.tree, calls := sending.calls, events := sending.events ++ left.events
      failure := sending.halt.failure }
  | _ =>
    let closed := p.session.close t
    let summary := task.summary p
    let finished : Event :=
      { level := .info, origin := .streamCommand, message := "stream finished"
        fields := [("frames", .number summary.frames)] }
    let left := closed.session.close closed.tree
    let ended : Run :=
      { tree := left.tree, calls := sending.calls, events := sending.events ++ closed.events ++ [finished]
        failure := sending.halt.failure }
    ended.say output (summary.print format) left.events

def run (task : StreamTask) (format : Format) (output : Output) (arrival : Arrival) (outlet : Outlet)
    (patience : Nat) (t : FileTree) : Run :=
  match TimeBase.build 1 task.fps with
  | .error e => { tree := t, failure := some (Exit.ofFrameError "invalid frame rate" e) }
  | .ok base =>
    let timing : Timing := { base, rounding := .standard }
    let opened := (Session.start task.path Owner.standardMode).openStream timing arrival t
    match opened.failure with
    | some e =>
      let left := opened.session.close opened.tree
      { tree := left.tree, events := opened.events ++ left.events
        failure := some (Exit.ofSessionError "open failed" e) }
    | none =>
      let sending := task.send 0
        { session := opened.session, pattern := .start task.pad, outlet } (task.length patience)
      let r := task.conclude format output opened.tree sending
      { r with events := opened.events ++ r.events }

end PlanarPipe.StreamTask
