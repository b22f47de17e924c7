import PlanarPipe.Posix.FileTree

/-!
# Following paths

A path leads to a location: name after name, through directories only. Symbolic links on the way are
followed, a link at the end only if that is asked for. `locate` finds the location of an object, whether
or not there is one; `vacancy` finds the location for a new object.
-/

namespace PlanarPipe.FileTree

/-- The most links that are followed on one path. -/
def longestChain : Nat := 40

/-- Follows names from the directory at `here` up to a link; `cross` goes on from there. -/
def walkTo (t : FileTree) (follow : Bool)
    (cross : Location → Route → List String → Except Errno Location) :
    Location → List String → Except Errno Location
  | here, [] => .ok here
  | here, name :: rest =>
    if name = "." then walkTo t follow cross here rest
    else if name = ".." then walkTo t follow cross here.dropLast rest
    else if Route.longestName < name.utf8ByteSize then .error .nameTooLong
    else
      let there := here ++ [name]
      match t.at? there with
      | none => if rest.isEmpty then .ok there else .error .noEntry
      | some .directory => walkTo t follow cross there rest
      | some (.link target) => if rest.isEmpty && !follow then .ok there else cross here target rest
      | some (.file _) | some (.fifo _) => if rest.isEmpty then .ok there else .error .notDirectory

/-- Follows names from the directory at `here`, through no more than `links` links. -/
def walk (t : FileTree) (follow : Bool) : Nat → Location → List String → Except Errno Location
  | 0, here, names => walkTo t follow (fun _ _ _ => .error .linkLoop) here names
  | links + 1, here, names =>
    walkTo t follow
      (fun here target rest =>
        walk t follow links (if target.rooted then [] else here) (target.steps ++ rest))
      here names

/-- The location that a path leads to. There need not be an object, but there is its directory. -/
def locate (t : FileTree) (follow : Bool) (path : String) : Except IoError Location :=
  match Route.read path with
  | .error cause => .error cause
  | .ok route => (t.walk follow longestChain [] route.steps).mapError .system

/-- The object that a path leads to. -/
def object (t : FileTree) (follow : Bool) (path : String) : Except IoError (Location × Entry) :=
  match t.locate follow path with
  | .error cause => .error cause
  | .ok place =>
    match t.at? place with
    | none => .error (.system .noEntry)
    | some e => .ok (place, e)

/-- The location for a new object of a route: its directory is there, and it is not. -/
def vacancyAt (t : FileTree) (route : Route) : Except Errno Location :=
  match route.names.reverse with
  | [] => .error .taken
  | name :: before =>
    match t.walk true longestChain [] (before.reverse ++ ["."]) with
    | .error e => .error e
    | .ok directory =>
      if name = "." ∨ name = ".." then .error .taken
      else if Route.longestName < name.utf8ByteSize then .error .nameTooLong
      else
        let place := directory ++ [name]
        if (t.at? place).isSome then .error .taken
        else if route.slashed then .error .noEntry
        else .ok place

/-- The location for a new object of a path. -/
def vacancy (t : FileTree) (path : String) : Except IoError Location :=
  match Route.read path with
  | .error cause => .error cause
  | .ok route => (t.vacancyAt route).mapError .system

end PlanarPipe.FileTree
