import PlanarPipe.Fifo.Error
import PlanarPipe.Log.Event
import PlanarPipe.Posix.FileTree.Calls
import PlanarPipe.Text.Quoted

/-!
# Owning a named pipe

An owner makes a pipe at its path, waits there for a reader, and removes the pipe again. Whatever is at
the path before makes room for the pipe, unless it is a directory. Once the owner has made a pipe it
remembers that pipe's number, and removes a pipe only if it has that number; an owner that never made a
pipe removes whatever pipe is there.

The system may refuse any of the calls that this takes (`PathCall`), for reasons that the tree does not
show. What an owner does then is told by the functions that take the refusals; the plain ones are those
where nothing is refused.
-/

namespace PlanarPipe

structure Owner where
  path : String
  mode : Nat
  stream : Option Fifo := none
  /-- The number of the pipe that was made last. -/
  made : Option Nat := none
  deriving DecidableEq, Repr

/-- What the system contributes to opening a pipe: the number for the new pipe, and how the wait for a
reader ends. -/
structure Arrival where
  inode : Nat
  refusal : Option IoError := none
  deriving DecidableEq, Repr

/-- The calls that an owner makes to the system about its path. -/
inductive PathCall where
  /-- What is there before the pipe is made? -/
  | look
  | clear
  | make
  | setMode
  /-- Which number does the new pipe have? -/
  | identify
  /-- The new pipe is taken away again, as its bits cannot be set or its number is not told. -/
  | undo
  /-- Is the pipe there that is to be removed? -/
  | find
  | remove
  deriving DecidableEq, Repr

/-- The calls that the system refuses, each with the error it gives. -/
abbrev Refusals := PathCall → Option IoError

def granted : Refusals := fun _ => none

/-- What a call comes to that may be refused. -/
def Refusals.answer {α : Type} (refuses : Refusals) (call : PathCall) (answer : Except IoError α) :
    Except IoError α :=
  match refuses call with
  | some cause => .error cause
  | none => answer

/-- A system that refuses nothing answers as the tree does. -/
theorem answer_granted {α : Type} (call : PathCall) (answer : Except IoError α) :
    granted.answer call answer = answer := rfl

/-- What an operation on an owner comes to. -/
structure Tenure where
  owner : Owner
  tree : FileTree
  events : List Event := []
  failure : Option FifoError := none
  deriving DecidableEq, Repr

namespace Owner

/-- The permission bits of a pipe unless others are asked for: reading and writing, for the user and the
group. -/
def standardMode : Nat := 0o660

/-- What kind of transport a pipe is. -/
def transport : String := "named-pipe"

/-- An owner that has done nothing yet. -/
def start (path : String) (mode : Nat) : Owner := { path, mode }

def isOpen (o : Owner) : Bool := o.stream.isSome

/-- An event about the path of an owner. -/
def event (o : Owner) (level : Level) (message : String) (fields : List (String × EventValue)) : Event :=
  { level, origin := .pipe, message, fields := ("path", .words (Text.quoted o.path)) :: fields }

/-- Makes room at the path: a directory is refused, any other object removed. -/
def clearWithin (refuses : Refusals) (o : Owner) (t : FileTree) : List Event × Except IoError FileTree :=
  match refuses.answer .look (t.inspect o.path) with
  | .ok .directory => ([], .error (.worded .alreadyExists "existing path is a directory"))
  | .ok _ =>
    ([o.event .debug "removing stale object at fifo path" []], refuses.answer .clear (t.unlink o.path))
  | .error cause => ([], if cause.kind = .notFound then .ok t else .error cause)

def clear (o : Owner) (t : FileTree) : List Event × Except IoError FileTree := o.clearWithin granted t

/-- Sets the permission bits of the new pipe and looks up its number. -/
def claimWithin (refuses : Refusals) (o : Owner) (t : FileTree) : Except IoError Fifo × FileTree :=
  match refuses.answer .setMode (t.setMode o.path o.mode) with
  | .error cause => (.error cause, t)
  | .ok t =>
    match refuses.answer .identify (t.inspect o.path) with
    | .error cause => (.error cause, t)
    | .ok (.fifo pipe) => (.ok pipe, t)
    | .ok _ => (.error (.bare .other), t)

/-- Makes the pipe. Where a step after the first fails the pipe is taken away again, if that can be
done. -/
def makeWithin (refuses : Refusals) (o : Owner) (inode : Nat) (t : FileTree) :
    Except IoError Fifo × FileTree :=
  match refuses.answer .make (t.makeFifo o.path o.mode inode) with
  | .error cause => (.error cause, t)
  | .ok t =>
    match o.claimWithin refuses t with
    | (.ok pipe, t) => (.ok pipe, t)
    | (.error cause, t) =>
      match refuses.answer .undo (t.unlink o.path) with
      | .ok t => (.error cause, t)
      | .error _ => (.error cause, t)

/-- Removes the pipe at the path if it is the owner's: the one made last, or any if none was made. -/
def removeFifoWithin (refuses : Refusals) (o : Owner) (t : FileTree) : List Event × FileTree :=
  match refuses.answer .find (t.inspect o.path) with
  | .ok (.fifo pipe) =>
    if o.made.all (· == pipe.inode) then
      match refuses.answer .remove (t.unlink o.path) with
      | .ok t => ([], t)
      | .error cause =>
        ([o.event .debug "failed to remove fifo" [("err", .words cause.message)]], t)
    else ([o.event .debug "fifo path identity changed; skipping cleanup" []], t)
  | _ => ([], t)

def removeFifo (o : Owner) (t : FileTree) : List Event × FileTree := o.removeFifoWithin granted t

/-- Makes the pipe and waits for a reader. -/
def openFifoWithin (refuses : Refusals) (o : Owner) (arrival : Arrival) (t : FileTree) : Tenure :=
  if o.isOpen then { owner := o, tree := t, failure := some (.alreadyOpen o.path) }
  else
    let notMade (t : FileTree) (events : List Event) (cause : IoError) : Tenure :=
      let e := FifoError.notMade o.path cause
      { owner := o, tree := t, failure := some e
        events := events ++ [o.event .error "failed to create fifo" [("err", .words e.message)]] }
    let (cleared, room) := o.clearWithin refuses t
    match room with
    | .error cause => notMade t cleared cause
    | .ok t =>
      match o.makeWithin refuses arrival.inode t with
      | (.error cause, t) => notMade t cleared cause
      | (.ok pipe, t) =>
        let o := { o with made := some pipe.inode }
        let waiting := cleared ++ [o.event .info "created fifo, waiting for reader" []]
        match arrival.refusal with
        | none =>
          { owner := { o with stream := some pipe }, tree := t
            events := waiting ++ [o.event .info "reader connected" []] }
        | some cause =>
          let (removal, t) := o.removeFifoWithin refuses t
          { owner := o, tree := t, failure := some (.notOpened o.path cause)
            events := waiting ++
              [o.event .error "failed to open fifo" [("source", .words cause.message)]] ++ removal }

def openFifo (o : Owner) (arrival : Arrival) (t : FileTree) : Tenure := o.openFifoWithin granted arrival t

/-- Closes the pipe, if it is open, and removes it. -/
def closeWithin (refuses : Refusals) (o : Owner) (t : FileTree) : Tenure :=
  let (removal, tree) := o.removeFifoWithin refuses t
  { owner := { o with stream := none }, tree
    events := removal ++ if o.isOpen then [o.event .info "fifo closed" []] else [] }

def close (o : Owner) (t : FileTree) : Tenure := o.closeWithin granted t

/-- An owner as it shows itself in messages. -/
def describe (o : Owner) : String :=
  let mode := String.ofList (Nat.toDigits 8 o.mode)
  s!"PipeEndpoint \x7b path: {Text.quoted o.path}, mode: 0o{mode}, open: {o.isOpen} \x7d"

end Owner

end PlanarPipe
