import PlanarPipe.Command.Program

/-!
# The command line

The program on a real system. What it decides is decided by `Program` and the commands; here bytes are
read and written, and events are told while they happen. The pipe to send into has to be there already, and
is left there: pipes cannot be made from here.
-/

namespace PlanarPipe.CommandLine

def cause : IO.Error → IoError
  | .alreadyExists _ code _ | .otherError code _ | .resourceBusy code _ | .resourceVanished code _
  | .unsupportedOperation code _ | .hardwareFault code _ | .unsatisfiedConstraints code _
  | .illegalOperation code _ | .protocolError code _ | .timeExpired code _ | .interrupted _ code _
  | .noFileOrDirectory _ code _ | .invalidArgument _ code _ | .permissionDenied _ code _
  | .resourceExhausted _ code _ | .inappropriateType _ code _ | .noSuchThing _ code _ =>
    .system ⟨code.toNat⟩
  | .unexpectedEof => .worded .other "end of file"
  | .userError text => .worded .other text

/-- Writes bytes and makes sure that they have gone out. -/
def write (file : IO.FS.Stream) (data : Bytes) : IO (Except IoError Unit) := do
  try
    file.write ⟨data.toArray⟩
    file.flush
    return .ok ()
  catch e => return .error (cause e)

/-- Prints bytes, and tells whether somebody takes them. -/
def print (data : Bytes) : IO Output := do
  return if (← write (← IO.getStdout) data).isOk then .healthy else .closed

def tell (log : LogStyle) (events : List Event) : IO Unit :=
  (log.lines "yuvpipe" events).forM IO.eprintln

/-- The next record of a stream, or how it ends. More is read only when the bytes held do not settle it. -/
partial def nextRecord (input : IO.FS.Stream) (r : Receiver) : IO (Option Reception × Receiver) := do
  let (what, r) := r.next?
  match what with
  | none | some (.failed .ended) =>
    let delivery : Delivery ←
      try pure (.bytes (← input.read (USize.ofNat Source.readLength)).toList)
      catch e => pure (.failure (cause e))
    if delivery = .bytes [] then return (what, r)
    nextRecord input { r with source := { deliveries := [delivery] } }
  | _ => return (what, r)

partial def relay (task : ReadTask) (format : Format) (log : LogStyle) (input : IO.FS.Stream)
    (frames : Nat) (r : Receiver) : IO (Option Failure) := do
  let (what, r) ← nextRecord input r
  match what with
  | some (.record record) =>
    let output ← print (Report.record format record).toBytes
    let (relayed, goesOn) := ReadTask.relayOne format output task.count frames record
    tell log relayed.events
    match goesOn with
    | none => return relayed.failure
    | some frames => relay task format log input frames r
  | ending =>
    let relayed := ReadTask.finish frames ending
    tell log relayed.events
    return relayed.failure

/-- Opens a file for reading. While it is not there, looks again until the time is over. -/
partial def openToRead (path : String) (limit : Duration) (now : Nat) :
    IO (Except IoError IO.FS.Stream) := do
  try return .ok (IO.FS.Stream.ofHandle (← IO.FS.Handle.mk path .read))
  catch e =>
    if (cause e).kind = .notFound ∧ now < limit.millis then
      IO.sleep (UInt32.ofNat ReadTask.pause)
      openToRead path limit (now + ReadTask.pause)
    else return .error (cause e)

def read (task : ReadTask) (format : Format) (log : LogStyle) : IO (Option Failure) := do
  match (task.wait.mapM fun text => Duration.ofText text.toList) with
  | .error failure => return some failure
  | .ok limit? =>
    match ← openToRead task.path (limit?.getD ⟨0⟩) 0 with
    | .error e =>
      match limit? with
      | some limit =>
        if e.kind = .notFound then return some (ReadTask.overdue task.path limit)
        else return some (Exit.ofFifoError "attach failed" (.notOpened task.path e))
      | none => return some (Exit.ofFifoError "attach failed" (.notOpened task.path e))
    | .ok input =>
      tell log [PipeEnd.opened task.path, task.attached]
      relay task format log input 0 (.start { deliveries := [] } Wire.standardLimit)

/-- Sends frames one by one from frame `index` on, as long as any are left and none fails. -/
partial def send (task : StreamTask) (log : LogStyle) (file : IO.FS.Stream) (index : Nat)
    (p : StreamTask.Progress) : IO StreamTask.Sending := do
  let idle : StreamTask.Sending := { progress := p, halt := .finished }
  if task.length (index + 1) ≤ index then return idle
  let sending := task.send index { p with outlet := .unlimited } 1
  let written ← write file (sending.calls.flatMap WriteCall.taken)
  let sending := match written with
    | .ok () => sending
    | .error e => task.send index { p with outlet := ⟨true, [.failure e]⟩ } 1
  tell log sending.events
  if sending.halt = .finished then
    if task.realtime then IO.sleep (UInt32.ofNat (1000 / task.fps.toInt.toNat))
    send task log file (index + 1) sending.progress
  else return { sending with calls := [], events := [] }

/-- Streams the test pattern into a pipe. -/
def stream (task : StreamTask) (format : Format) (log : LogStyle) : IO Run := do
  match TimeBase.build 1 task.fps with
  | .error e => return { tree := {}, failure := some (Exit.ofFrameError "invalid frame rate" e) }
  | .ok base =>
    let opened ←
      try pure (Except.ok (IO.FS.Stream.ofHandle (← IO.FS.Handle.mk task.path .write)))
      catch e => pure (Except.error (cause e))
    match opened with
    | .error e =>
      return { tree := {}, failure := some (Exit.ofFifoError "open failed" (.notOpened task.path e)) }
    | .ok file =>
      let owner : Owner :=
        { path := task.path, mode := Owner.standardMode, stream := some ⟨0, 0, Owner.standardMode⟩ }
      let session : Session := { owner, encoder := some (.start { base, rounding := .standard }) }
      let sending ← send task log file 0
        { session, pattern := .start task.pad, outlet := .unlimited }
      let output ← print (task.conclude format .healthy {} sending).printed
      let r := task.conclude format output {} sending
      tell log r.events
      return r

/-- Runs what a command line asks for. -/
def perform (i : Invocation) : IO Run := do
  let format := i.formatFor (← (← IO.getStdout).isTty)
  match i.task with
  | .stream task => stream task format i.log
  | .read task => return { tree := {}, failure := ← read task format i.log }
  | .version extended =>
    let host : Host := ⟨"unknown", "unknown", "unknown"⟩
    let text := if extended then Version.extended host else Version.short
    let ended : Run := { tree := {} }
    return ended.say (← print (Printout.text text).toBytes) text

end PlanarPipe.CommandLine

open PlanarPipe in
/-- Runs the program on the words of the command line. -/
def main (words : List String) : IO UInt32 := do
  let env ← (Invocation.environmentNames Invocation.common).filterMapM fun name => do
    return (← IO.getEnv name).map ((name, ·))
  match Invocation.ofWords env words with
  | .error fault =>
    if fault = .version then discard (CommandLine.print (Printout.text Version.short).toBytes)
    return UInt32.ofNat fault.code
  | .ok i =>
    let r ← CommandLine.perform i
    (Program.complaint i.log "yuvpipe" r).forM IO.eprintln
    return UInt32.ofNat r.code
