import PlanarPipe.Posix.IoError

/-!
# Paths

A path is a text; to the system it is a route: the names to follow, where it starts, and whether it ends
with a slash, which asks for a directory.
-/

namespace PlanarPipe

structure Route where
  rooted : Bool
  /-- The names between the slashes. -/
  names : List String
  slashed : Bool
  deriving DecidableEq, Repr

namespace Route

/-- The most bytes a name may have. -/
def longestName : Nat := 255

/-- The most bytes a path may have. -/
def longestPath : Nat := 4095

/-- The parts of a text between slashes, those without any characters left out. -/
def split (word : List Char) : List Char → List String
  | [] => if word.isEmpty then [] else [String.ofList word.reverse]
  | '/' :: rest => if word.isEmpty then split [] rest else String.ofList word.reverse :: split [] rest
  | c :: rest => split (c :: word) rest

/-- The route of a path that the system takes. -/
def ofPath (path : String) : Route :=
  let chars := path.toList
  { rooted := chars.head? == some '/'
    names := split [] chars
    slashed := chars.getLast? == some '/' }

/-- The route of a path, unless it holds a NUL, is empty, or is too long. -/
def read (path : String) : Except IoError Route :=
  if path.toList.contains '\x00' then
    .error (.worded .invalidInput "file name contained an unexpected NUL byte")
  else if path.isEmpty then .error (.system .noEntry)
  else if longestPath < path.utf8ByteSize then .error (.system .nameTooLong)
  else .ok (ofPath path)

/-- The names to follow for an object that there is. A slash at the end stands for one more step, to the
directory itself. -/
def steps (r : Route) : List String := if r.slashed then r.names ++ ["."] else r.names

end Route

end PlanarPipe
