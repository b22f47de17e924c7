import PlanarPipe.Posix.FileTree.Walk

/-!
# File system calls

What the calls of the system do to a file tree: each takes a path and gives the tree afterwards, or the
error with which it fails, in which case nothing has changed.
-/

namespace PlanarPipe.FileTree

/-- The object at a path itself, be it a link. -/
def inspect (t : FileTree) (path : String) : Except IoError Entry := (t.object false path).map (·.2)

/-- Removes a name; a directory is refused. -/
def unlink (t : FileTree) (path : String) : Except IoError FileTree :=
  match t.object false path with
  | .error cause => .error cause
  | .ok (_, .directory) => .error (.system .isDirectory)
  | .ok (place, _) => .ok (t.erase place)

def permissionBits : Nat := 0o7777

/-- The bits of a mode that tell the kinds of objects apart; for a pipe none but its own may be set. -/
def foreignKinds : Nat := 0o160000

/-- The numbers of the pipes that have a name. -/
def pipeNumbers (t : FileTree) : List Nat :=
  t.entries.filterMap fun (_, e) =>
    match e with
    | .fifo pipe => some pipe.inode
    | _ => none

/-- The least number that no pipe has, neither one with a name nor one of those that are `held` open. -/
def freeNumber (t : FileTree) (held : List Nat) : Nat :=
  let used := t.pipeNumbers ++ held
  ((List.range (used.length + 1)).find? fun n => n ∉ used).getD 0

/-- Makes a named pipe, which the system gives the number `inode`. -/
def makeFifo (t : FileTree) (path : String) (mode inode : Nat) : Except IoError FileTree :=
  if mode &&& foreignKinds ≠ 0 then .error (.system .invalidArgument)
  else
    match t.vacancy path with
    | .error cause => .error cause
    | .ok place =>
      let (stamp, t) := t.stamped
      let mode := mode &&& permissionBits &&& (permissionBits - t.umask % 0o1000)
      .ok (t.put place (.fifo { stamp, inode, mode }))

/-- Sets the permission bits of the object that a path leads to. -/
def setMode (t : FileTree) (path : String) (mode : Nat) : Except IoError FileTree :=
  match t.object true path with
  | .error cause => .error cause
  | .ok (place, .fifo pipe) => .ok (t.put place (.fifo { pipe with mode := mode &&& permissionBits }))
  | .ok _ => .ok t

inductive Opened where
  | directory
  | file (stamp : Nat)
  | fifo (pipe : Fifo)
  deriving DecidableEq, Repr

/-- Opens the object that a path leads to for reading. A process without a descriptor to spare learns
that before the path is followed. -/
def openToRead (t : FileTree) (path : String) (spare : Bool) : Except IoError Opened :=
  match Route.read path with
  | .error cause => .error cause
  | .ok _ =>
    if spare then
      match t.object true path with
      | .error cause => .error cause
      | .ok (_, .directory) => .ok .directory
      | .ok (_, .file stamp) => .ok (.file stamp)
      | .ok (_, .fifo pipe) => .ok (.fifo pipe)
      | .ok (_, .link _) => .error (.system .linkLoop)
    else .error (.system .tooManyFiles)

/-- Writes a file, which is made unless there is one. -/
def writeFile (t : FileTree) (path : String) (data : Bytes) : Except IoError FileTree :=
  match t.locate true path with
  | .error cause => .error cause
  | .ok place =>
    match t.at? place with
    | some (.file stamp) => .ok (t.fill stamp data)
    | none =>
      let (stamp, t) := t.stamped
      .ok ((t.put place (.file stamp)).fill stamp data)
    | some .directory => .error (.system .isDirectory)
    | some _ => .error (.system .taken)

def makeLink (t : FileTree) (path target : String) : Except IoError FileTree :=
  match t.vacancy path with
  | .error cause => .error cause
  | .ok place => .ok (t.put place (.link (Route.ofPath target)))

/-- Makes the directory that a route leads to, unless it is there. -/
def makeDirectoryAt (t : FileTree) (route : Route) : Except Errno FileTree :=
  match t.walk true longestChain [] (route.names ++ ["."]) with
  | .ok _ => .ok t
  | .error _ => (t.vacancyAt route).map fun place => t.put place .directory

/-- Makes the directories on a path, as far as they are missing. -/
def makeDirectories (t : FileTree) (path : String) : Except IoError FileTree :=
  match Route.read path with
  | .error cause => .error cause
  | .ok route =>
    let step (made : Except Errno FileTree) (names : List String) : Except Errno FileTree :=
      made.bind fun t => t.makeDirectoryAt { route with names, slashed := false }
    let prefixes := (List.range route.names.length).map fun n => route.names.take (n + 1)
    (prefixes.foldl step (.ok t)).mapError .system

/-- Removes an object, a directory with all that is in it. -/
def remove (t : FileTree) (path : String) : Except IoError FileTree :=
  match t.object false path with
  | .error cause => .error cause
  | .ok (place, _) => .ok { t with entries := t.entries.filter fun (other, _) => !place.isPrefixOf other }

/-- Puts a new pipe in the place of whatever a path leads to, unless that is a directory. -/
def replaceWithFifo (t : FileTree) (path : String) (mode inode : Nat) : Except IoError FileTree :=
  match t.locate false path with
  | .error cause => .error cause
  | .ok place =>
    if t.at? place = some .directory then .error (.system .isDirectory)
    else
      let (stamp, t) := t.stamped
      .ok (t.put place (.fifo { stamp, inode, mode }))

end PlanarPipe.FileTree
