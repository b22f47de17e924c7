import PlanarPipe.Bytes.Basic
import PlanarPipe.Posix.Route

/-!
# File trees

What stands under which name. The root, which is also the working directory, is a directory, and every
other object has a location: the names that lead to it from the root. Files and pipes carry a stamp that
no other object of the tree ever had; a pipe also has the number by which the system tells it apart,
which may be given again to another pipe later. `put` and `erase` change what stands at one location,
and `at?` says what stands there.
-/

namespace PlanarPipe

/-- The names that lead to an object from the root. -/
abbrev Location := List String

structure Fifo where
  /-- The pipe itself, told apart from every other one that there ever is. -/
  stamp : Nat
  /-- The number that the system knows it by. -/
  inode : Nat
  mode : Nat
  deriving DecidableEq, Repr

inductive Entry where
  | directory
  | file (stamp : Nat)
  | link (target : Route)
  | fifo (pipe : Fifo)
  deriving DecidableEq, Repr

structure FileTree where
  entries : List (Location × Entry) := []
  /-- The bytes of the files, by stamp, also of those that have no name any more. -/
  contents : List (Nat × Bytes) := []
  /-- How many stamps were given. -/
  births : Nat := 0
  /-- The permission bits that new objects do not get. -/
  umask : Nat := 0o022
  deriving DecidableEq, Repr

namespace FileTree

def at? (t : FileTree) (place : Location) : Option Entry :=
  if place = [] then some .directory else (t.entries.find? (·.1 = place)).map (·.2)

def erase (t : FileTree) (place : Location) : FileTree :=
  { t with entries := t.entries.filter (·.1 ≠ place) }

/-- Lets an object stand at a location. -/
def put (t : FileTree) (place : Location) (e : Entry) : FileTree :=
  { t with entries := (place, e) :: t.entries.filter (·.1 ≠ place) }

def stamped (t : FileTree) : Nat × FileTree := (t.births, { t with births := t.births + 1 })

def contentsOf (t : FileTree) (stamp : Nat) : Bytes :=
  ((t.contents.find? (·.1 = stamp)).map (·.2)).getD []

def fill (t : FileTree) (stamp : Nat) (data : Bytes) : FileTree :=
  { t with contents := (stamp, data) :: t.contents.filter (·.1 ≠ stamp) }

/-- What is looked up under one location is not changed by what is left out at another one. -/
theorem find?_filter_ne {place other : Location} (h : other ≠ place) (l : List (Location × Entry)) :
    (l.filter (·.1 ≠ place)).find? (·.1 = other) = l.find? (·.1 = other) := by
  induction l with
  | nil => rfl
  | cons x l ih =>
    by_cases gone : x.1 = place
    · have : ¬ x.1 = other := fun e => h (e.symm.trans gone)
      simp_all
    · by_cases here : x.1 = other <;> simp_all

/-- The root stays what it is; any other location changes as it is told. -/
theorem at?_put (t : FileTree) (place other : Location) (e : Entry) :
    (t.put place e).at? other =
      if other = [] then some .directory else if other = place then some e else t.at? other := by
  by_cases root : other = []
  · simp [at?, root]
  · by_cases same : other = place
    · subst same
      simp [at?, put, root]
    · have ne : ¬ place = other := fun h => same h.symm
      have found := find?_filter_ne same t.entries
      simp only [ne_eq, decide_not] at found
      simp [at?, put, root, same, ne, found]

/-- Nothing stands any more at the place that was cleared, and the other places are as they were. -/
theorem at?_erase (t : FileTree) (place other : Location) :
    (t.erase place).at? other =
      if other = [] then some .directory else if other = place then none else t.at? other := by
  by_cases root : other = []
  · simp [at?, root]
  · by_cases same : other = place
    · subst same
      simp [at?, erase, root, List.find?_eq_none]
    · have found := find?_filter_ne same t.entries
      simp only [ne_eq, decide_not] at found
      simp [at?, erase, root, same, found]

end FileTree

end PlanarPipe
