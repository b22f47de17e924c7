import PlanarPipe.Command.Program
import PlanarPipe.Text.Number

/-!
# Sending a raw file

A second program sends a file that holds nothing but frames, one after the other. It makes a pipe of a
fixed name, and sends frame after frame until too few bytes are left for another one.
-/

namespace PlanarPipe.RawFile

structure Job where
  input : String
  size : Size
  fps : Int32
  deriving DecidableEq, Repr

/-- Why the program does not even start. -/
inductive Refusal where
  | usage
  | number (fault : Text.NumberFault)
  deriving DecidableEq, Repr

/-- What the words of a call ask for. -/
def Job.ofWords : List String → Except Refusal Job
  | [input, width, height, fps] => do
    let side (word : String) : Except Refusal UInt32 :=
      match Text.readNat Invocation.maxSide word.toList with
      | .error fault => .error (.number fault)
      | .ok n => .ok (UInt32.ofNat n)
    let width ← side width
    let height ← side height
    match Text.readInt (Invocation.maxRate + 1) Invocation.maxRate fps.toList with
    | .error fault => .error (.number fault)
    | .ok fps => .ok { input, size := ⟨width, height⟩, fps := Int32.ofInt fps }
  | _ => .error .usage

inductive Halt where
  /-- Too few bytes are left. -/
  | spent
  | unreadable (cause : IoError)
  | unmade (cause : FrameError)
  | unsent (cause : SessionError)
  deriving DecidableEq

structure Sending where
  session : Session
  halt : Halt
  frames : Nat
  calls : List WriteCall := []

/-- Sends the frames that `data` holds; `index` is the number of the first of them. -/
def send (size : Size) (index : Nat) (s : Session) (outlet : Outlet) (data : Bytes) : Sending :=
  if data.length < size.frameBytes then { session := s, halt := .spent, frames := index }
  else
    match _h : Frame.ofPacked size (data.take size.frameBytes) (some (Int64.ofNat index)) with
    | .error cause => { session := s, halt := .unmade cause, frames := index }
    | .ok frame =>
      let pushed := s.push frame outlet
      match pushed.failure with
      | some cause =>
        { session := pushed.session, halt := .unsent cause, frames := index, calls := pushed.calls }
      | none =>
        let later := send size (index + 1) pushed.session pushed.outlet (data.drop size.frameBytes)
        { later with calls := pushed.calls ++ later.calls }
termination_by data.length
decreasing_by
  have := Frame.frameBytes_pos_of_ofPacked _h
  simp only [List.length_drop]
  omega

/-- Sends a file. A file without bytes that can be read ends the sending before the first frame. -/
def sendFile (job : Job) (s : Session) (outlet : Outlet) (t : FileTree) (file : OpenFile) : Sending :=
  match file.object with
  | .directory =>
    if job.size.frameBytes = 0 then send job.size 0 s outlet []
    else { session := s, halt := .unreadable (.system .isDirectory), frames := 0 }
  | _ => send job.size 0 s outlet (file.rest t [])

/-- An error about a frame with all that it carries, by name. -/
def frameDetail : FrameError → String
  | .emptySize size => s!"InvalidDimensions \x7b width: {size.width}, height: {size.height} \x7d"
  | .badTimeBase num den => s!"InvalidTimeBase \x7b num: {num}, den: {den} \x7d"
  | cause => cause.message

/-- What is told of the end of the sending, and the code it means. -/
def Sending.verdict (s : Sending) : String × Nat :=
  match s.halt with
  | .spent => (s!"End of input after {s.frames} frames: failed to fill whole buffer", 0)
  | .unreadable cause => (s!"End of input after {s.frames} frames: {cause.message}", 0)
  | .unmade cause => (s!"Error: {frameDetail cause}", 1)
  | .unsent cause => (s!"Stopped: {cause.message}", 0)

/-- A system error with all that it carries. -/
def ioDetail : IoError → String
  | .system number =>
    s!"Os \x7b code: {number.code}, kind: {number.kind.name}, message: \"{number.text}\" \x7d"
  | .bare kind => s!"Kind({kind.name})"
  | .worded kind text => s!"Custom \x7b kind: {kind.name}, error: \"{text}\" \x7d"

/-- An error of a pipe with all that it carries. -/
def fifoDetail : FifoError → String
  | .notMade path cause =>
    s!"CreateFailed \x7b path: {Text.quoted path}, source: {ioDetail cause} \x7d"
  | .notOpened path cause =>
    s!"OpenFailed \x7b path: {Text.quoted path}, source: {ioDetail cause} \x7d"
  | .alreadyOpen path => s!"AlreadyOpen \x7b path: {Text.quoted path} \x7d"
  | .notOpen => "NotOpen"
  | .stream cause => s!"Io({ioDetail cause})"

def pipeName : String := "yuvpipe-raw-example.fifo"

/-- The directory for passing files, as the environment tells it. -/
def directory (env : List (String × String)) : String := (env.lookup "TMPDIR").getD "/tmp"

/-- The path of the pipe in a directory. -/
def pipePath (directory : String) : String :=
  if directory.isEmpty || directory.endsWith "/" then directory ++ pipeName else directory ++ "/" ++ pipeName

def run (w : World) (env : List (String × String)) (words : List String) : Execution :=
  let tree := w.scene 0
  match Job.ofWords words with
  | .error .usage =>
    { code := Exit.usage, tree, notes := ["usage: raw-file-sink <input.yuv> <width> <height> <fps>"] }
  | .error (.number fault) =>
    { code := 1, tree, notes := [s!"Error: ParseIntError \x7b kind: {fault.name} \x7d"] }
  | .ok job =>
    match tree.openToRead job.input true with
    | .error cause => { code := 1, tree, notes := [s!"Error: {ioDetail cause}"] }
    | .ok object =>
      let path := pipePath (directory env)
      let waiting := s!"Waiting for a reader on {path}"
      match TimeBase.build 1 job.fps with
      | .error e =>
        let left := (Session.start path Owner.standardMode).close tree
        { code := 1, tree := left.tree, notes := [waiting, s!"Error: {frameDetail e}"] }
      | .ok base =>
        let timing : Timing := { base, rounding := .standard }
        let opened := (Session.start path Owner.standardMode).openStream timing w.arrival tree
        match opened.failure with
        | some e =>
          let left := opened.session.close opened.tree
          let detail := match e with
            | .fifo e => s!"Transport({fifoDetail e})"
            | .encode e => e.message
          { code := 1, tree := left.tree, notes := [waiting, s!"Error: {detail}"] }
        | none =>
          let sending := sendFile job opened.session w.outlet opened.tree { object }
          let closed := sending.session.close opened.tree
          let left := closed.session.close closed.tree
          let (told, code) := sending.verdict
          { code, tree := left.tree, notes := [waiting, told]
            sent := sending.calls.flatMap WriteCall.taken }

end PlanarPipe.RawFile
