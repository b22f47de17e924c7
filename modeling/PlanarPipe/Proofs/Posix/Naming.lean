import Mathlib.Data.List.Perm.Subperm
import Mathlib.Tactic.Lemma
import PlanarPipe.Posix.FileTree.Calls

/-!
# What a path leads to after a call

A call that makes an object at a path lets the path lead to it: every name on the way leads where it led
before, because an object that is made stands where none was (`FileTree.walk_put`). Where a path leads that
is not followed to its end is a matter of the directories and links in the tree (`FileTree.locate_ways`). A
call changes the tree at one location, and what that means for the pipes that have a name is told by `at?`
alone (`FileTree.Names`).
-/

namespace PlanarPipe

/-- An object that a path may lead through. -/
inductive Entry.IsWay : Entry → Prop where
  | directory :
    IsWay .directory
  | link {target} :
    IsWay (.link target)

namespace FileTree

/-- The pipe has a name. -/
def Names (t : FileTree) (pipe : Fifo) : Prop := ∃ place, t.at? place = some (.fifo pipe)

/-- The pipe that is made next, if the system gives it the number `number`. -/
def newPipe (t : FileTree) (number mode : Nat) : Fifo := ⟨t.births, number, mode⟩

/-- The pipe loses a name. -/
def Removes (t t' : FileTree) (pipe : Fifo) : Prop :=
  ∃ place, t.at? place = some (.fifo pipe) ∧ t'.at? place ≠ some (.fifo pipe)

/-- Names were lost on the way from one tree to the other, and nothing was made. -/
structure Thins (t t' : FileTree) : Prop where
  births : t'.births = t.births
  names : ∀ pipe, t'.Names pipe → t.Names pipe

/-- The directories and links of a tree are in the other one as well. -/
def WaysIn (t t' : FileTree) : Prop := ∀ {place e}, e.IsWay → t.at? place = some e → t'.at? place = some e

variable {t t' : FileTree} {path : String} {place : Location} {pipe : Fifo} {follow : Bool}

/-- In the empty tree no pipe has a name. -/
lemma not_names_empty (pipe : Fifo) : ¬Names {} pipe := by
  rintro ⟨place, stands⟩
  rw [at?] at stands
  split at stands <;> cases stands

/-- What is put at a location replaces what was put there. -/
lemma put_put (t : FileTree) (place : Location) (e e' : Entry) :
    (t.put place e).put place e' = t.put place e' := by
  simp [put]

/-- The pipes made so far are counted on when a name is lost. -/
@[simp] lemma births_erase (t : FileTree) (place : Location) : (t.erase place).births = t.births := rfl

section Walk

variable {name : String} {directory : Location}

/-- The last name of a path leads to the pipe that stands there. -/
lemma walkTo_last {cross : Location → Route → List String → Except Errno Location}
    (named : name ≠ "." ∧ name ≠ "..") (short : ¬Route.longestName < name.utf8ByteSize)
    (stands : t.at? (directory ++ [name]) = some (.fifo pipe)) :
    t.walkTo follow cross directory [name] = .ok (directory ++ [name]) := by
  rw [walkTo, if_neg named.1, if_neg named.2, if_neg short]
  simp only [stands, List.isEmpty_nil, if_true]

/-- A path that leads to a directory leads on to what is made there: no name on the way is the one that
was free. -/
lemma walkTo_put {cross cross' : Location → Route → List String → Except Errno Location}
    (named : name ≠ "." ∧ name ≠ "..") (short : ¬Route.longestName < name.utf8ByteSize)
    (free : t.at? (directory ++ [name]) = none)
    (crosses : ∀ here target rest, cross here target (rest ++ ["."]) = .ok directory →
      cross' here target (rest ++ [name]) = .ok (directory ++ [name]))
    (names : List String) (here : Location)
    (leads : t.walkTo true cross here (names ++ ["."]) = .ok directory) :
    (t.put (directory ++ [name]) (.fifo pipe)).walkTo follow cross' here (names ++ [name]) =
      .ok (directory ++ [name]) := by
  induction names generalizing here with
  | nil =>
    rw [List.nil_append, walkTo, if_pos rfl, walkTo] at leads
    obtain rfl := Except.ok.inj leads
    have stands : (t.put (here ++ [name]) (.fifo pipe)).at? (here ++ [name]) = some (.fifo pipe) := by
      simp [at?_put]
    exact walkTo_last named short stands
  | cons first names ih =>
    have more : ∀ last : String, (names ++ [last]).isEmpty = false := fun last => by simp
    rw [List.cons_append, walkTo] at leads ⊢
    by_cases dot : first = "."
    · rw [if_pos dot] at leads ⊢
      exact ih here leads
    rw [if_neg dot] at leads ⊢
    by_cases dots : first = ".."
    · rw [if_pos dots] at leads ⊢
      exact ih here.dropLast leads
    rw [if_neg dots] at leads ⊢
    by_cases long : Route.longestName < first.utf8ByteSize
    · rw [if_pos long] at leads
      cases leads
    rw [if_neg long] at leads ⊢
    simp only [more, Bool.false_eq_true, if_false, Bool.false_and] at leads ⊢
    -- the walk goes on only from where something stands, and nothing stands at the free name
    have same : t.at? (here ++ [first]) ≠ none →
        (t.put (directory ++ [name]) (.fifo pipe)).at? (here ++ [first]) = t.at? (here ++ [first]) := by
      intro stands
      have other : here ++ [first] ≠ directory ++ [name] := fun same => stands (same ▸ free)
      rw [at?_put, if_neg (by simp), if_neg other]
    cases stands : t.at? (here ++ [first]) with
    | none =>
      rw [stands] at leads
      cases leads
    | some object =>
      rw [stands] at same leads
      rw [same nofun]
      cases object with
      | directory => exact ih _ leads
      | link target => exact crosses here target names leads
      | file stamp => cases leads
      | fifo pipe => cases leads

/-- So does a path with links on the way. -/
lemma walk_put (named : name ≠ "." ∧ name ≠ "..") (short : ¬Route.longestName < name.utf8ByteSize)
    (free : t.at? (directory ++ [name]) = none) (links : Nat) (names : List String) (here : Location)
    (leads : t.walk true links here (names ++ ["."]) = .ok directory) :
    (t.put (directory ++ [name]) (.fifo pipe)).walk follow links here (names ++ [name]) =
      .ok (directory ++ [name]) := by
  induction links generalizing names here with
  | zero =>
    rw [walk] at leads ⊢
    exact walkTo_put named short free (fun _ _ _ looped => by cases looped) names here leads
  | succ links ih =>
    rw [walk] at leads ⊢
    -- what is left of the path is followed from the link on, with one link less to spend
    refine walkTo_put named short free (fun here target rest leads => ?_) names here leads
    rw [← List.append_assoc] at leads ⊢
    exact ih _ _ leads

/-- Where a path leads is told by what stands at which location. -/
lemma walk_congr (same : ∀ place, t.at? place = t'.at? place) (follow : Bool) :
    t.walk follow = t'.walk follow := by
  have names : ∀ cross, t.walkTo follow cross = t'.walkTo follow cross := by
    intro cross
    funext here names
    induction names generalizing here with
    | nil => rw [walkTo, walkTo]
    | cons name names ih => simp only [walkTo, same, ih]
  funext links
  induction links with
  | zero => funext here steps; rw [walk, walk, names]
  | succ links ih => funext here steps; rw [walk, walk, names, ih]

/-- Where the last name of a path leads is not a matter of what stands there, unless it is followed. -/
lemma walkTo_single (t t' : FileTree) (cross cross' : Location → Route → List String → Except Errno Location)
    (here : Location) (name : String) :
    t.walkTo false cross here [name] = t'.walkTo false cross' here [name] := by
  have stays : ∀ (t : FileTree) cross, t.walkTo false cross here [name] =
      if name = "." then .ok here
      else if name = ".." then .ok here.dropLast
      else if Route.longestName < name.utf8ByteSize then .error .nameTooLong
      else .ok (here ++ [name]) := by
    intro t cross
    simp only [walkTo]
    split
    · rfl
    split
    · rfl
    split
    · rfl
    split <;> rfl
  rw [stays, stays]

/-- A walk that is not followed to its end meets only directories and links on the way, so it goes the same way in
every tree that has these. -/
lemma walkTo_ways {cross cross' : Location → Route → List String → Except Errno Location}
    (ways : t.WaysIn t')
    (crosses : ∀ here target rest, cross here target rest = .ok place → cross' here target rest = .ok place)
    (names : List String) (here : Location) (leads : t.walkTo false cross here names = .ok place) :
    t'.walkTo false cross' here names = .ok place := by
  -- every name but the last leads through a directory or a link, and those are in the other tree as well
  induction names generalizing here with
  | nil => exact leads
  | cons name names ih =>
    cases names with
    | nil => rwa [walkTo_single t' t cross' cross]
    | cons next later =>
      rw [walkTo] at leads ⊢
      by_cases dot : name = "."
      · rw [if_pos dot] at leads ⊢
        exact ih here leads
      rw [if_neg dot] at leads ⊢
      by_cases dots : name = ".."
      · rw [if_pos dots] at leads ⊢
        exact ih here.dropLast leads
      rw [if_neg dots] at leads ⊢
      by_cases long : Route.longestName < name.utf8ByteSize
      · rw [if_pos long] at leads
        cases leads
      rw [if_neg long] at leads ⊢
      simp only [List.isEmpty_cons, Bool.false_and, Bool.false_eq_true, if_false] at leads ⊢
      cases stands : t.at? (here ++ [name]) with
      | none =>
        rw [stands] at leads
        cases leads
      | some object =>
        rw [stands] at leads
        cases object with
        | file => cases leads
        | fifo => cases leads
        | directory =>
          rw [ways .directory stands]
          exact ih _ leads
        | link target =>
          rw [ways .link stands]
          exact crosses here target _ leads

/-- What a path leads to, if that is not followed, depends on the directories and links alone. -/
lemma walk_ways (ways : t.WaysIn t') (links : Nat) (names : List String) (here : Location)
    (leads : t.walk false links here names = .ok place) : t'.walk false links here names = .ok place := by
  induction links generalizing names here with
  | zero =>
    rw [walk] at leads ⊢
    exact walkTo_ways ways (fun _ _ _ looped => looped) names here leads
  | succ links ih =>
    rw [walk] at leads ⊢
    exact walkTo_ways ways (fun here target rest leads => ih _ _ leads) names here leads

/-- A path, read and walked, leads to the same place in every tree with the same ways. -/
lemma locate_ways (ways : t.WaysIn t') (leads : t.locate false path = .ok place) :
    t'.locate false path = .ok place := by
  rw [locate] at leads ⊢
  cases given : Route.read path with
  | error cause =>
    rw [given] at leads
    cases leads
  | ok route =>
    rw [given] at leads
    simp only at leads ⊢
    cases walked : t.walk false longestChain [] route.steps with
    | error cause =>
      rw [walked] at leads
      cases leads
    | ok place =>
      rw [walked] at leads
      rw [walk_ways ways _ _ _ walked]
      exact leads

/-- Erasing a location makes no directory and no link. -/
lemma waysIn_erase (t : FileTree) (place : Location) : (t.erase place).WaysIn t := by
  intro other e way stands
  rw [at?_erase] at stands
  split at stands
  case isTrue root => rw [at?, if_pos root, stands]
  case isFalse =>
    split at stands
    · cases stands
    · exact stands

/-- Where a pipe is erased, every directory and every link stays. -/
lemma erase_waysIn (stands : t.at? place = some (.fifo pipe)) : t.WaysIn (t.erase place) := by
  intro other e way same
  rw [at?_erase]
  by_cases root : other = []
  · rwa [if_pos root, ← same, at?, if_pos]
  rw [if_neg root]
  split
  case isTrue here =>
    rw [here, stands] at same
    cases same
    cases way
  case isFalse => exact same

/-- Where a pipe is put, no directory and no link is new. -/
lemma put_waysIn (t : FileTree) (place : Location) (pipe : Fifo) : (t.put place (.fifo pipe)).WaysIn t := by
  intro other e way stands
  rw [at?_put] at stands
  split at stands
  case isTrue root => rw [at?, if_pos root, stands]
  case isFalse =>
    split at stands
    · cases stands
      cases way
    · exact stands

/-- Counting a pipe that is to be made takes no name. -/
lemma vacancy_stamped (t : FileTree) (path : String) : t.stamped.2.vacancy path = t.vacancy path := by
  have same : ∀ place, t.stamped.2.at? place = t.at? place := fun _ => rfl
  simp only [vacancy, vacancyAt, walk_congr same, same]

/-- A location for a new object is a free name in a directory that the path leads to. -/
lemma vacancy_cases (free : t.vacancy path = .ok place) :
    ∃ route name before directory, Route.read path = .ok route ∧
      route.steps = before ++ [name] ∧ (name ≠ "." ∧ name ≠ "..") ∧
      ¬Route.longestName < name.utf8ByteSize ∧
      t.walk true longestChain [] (before ++ ["."]) = .ok directory ∧
      t.at? (directory ++ [name]) = none ∧ place = directory ++ [name] := by
  -- every test that fails makes the call fail, so all of them have passed
  rw [vacancy] at free
  cases given : Route.read path with
  | error cause =>
    rw [given] at free
    cases free
  | ok route =>
    rw [given] at free
    simp only [vacancyAt] at free
    cases names : route.names.reverse with
    | nil =>
      rw [names] at free
      cases free
    | cons name before =>
      rw [names] at free
      simp only at free
      cases leads : t.walk true longestChain [] (before.reverse ++ ["."]) with
      | error cause =>
        rw [leads] at free
        cases free
      | ok directory =>
        rw [leads] at free
        simp only at free
        by_cases dots : name = "." ∨ name = ".."
        · rw [if_pos dots] at free
          cases free
        rw [if_neg dots] at free
        by_cases long : Route.longestName < name.utf8ByteSize
        · rw [if_pos long] at free
          cases free
        rw [if_neg long] at free
        by_cases taken : (t.at? (directory ++ [name])).isSome = true
        · rw [if_pos taken] at free
          cases free
        rw [if_neg taken] at free
        by_cases slashed : route.slashed = true
        · rw [if_pos slashed] at free
          cases free
        rw [if_neg slashed] at free
        refine ⟨route, name, before.reverse, directory, rfl, ?_, not_or.1 dots, long, leads,
          Option.not_isSome_iff_eq_none.1 taken, (Except.ok.inj free).symm⟩
        rw [Route.steps, if_neg slashed, ← List.reverse_reverse route.names, names, List.reverse_cons]

/-- A path that is free for a pipe leads to the pipe once it is put there, whether links are followed or not. -/
lemma object_put_vacancy (free : t.vacancy path = .ok place) (follow : Bool) (pipe : Fifo) :
    (t.put place (.fifo pipe)).object follow path = .ok (place, .fifo pipe) := by
  obtain ⟨route, name, before, directory, given, steps, named, short, leads, none, rfl⟩ :=
    vacancy_cases free
  have there : (t.put (directory ++ [name]) (.fifo pipe)).locate follow path = .ok (directory ++ [name]) := by
    rw [locate, given]
    simp only [steps, walk_put named short none longestChain before [] leads]
    rfl
  have stands : (t.put (directory ++ [name]) (.fifo pipe)).at? (directory ++ [name]) = some (.fifo pipe) := by
    simp [at?_put]
  rw [object, there]
  simp only [stands]

end Walk

/-- A path leads to an object just if it leads to a location where the object stands. -/
lemma object_eq_ok_iff {e : Entry} :
    t.object follow path = .ok (place, e) ↔ t.locate follow path = .ok place ∧ t.at? place = some e := by
  rw [object]
  constructor
  · intro leads
    split at leads
    · cases leads
    · split at leads
      · cases leads
      case h_2 there _ _ stands =>
        cases leads
        exact ⟨there, stands⟩
  · rintro ⟨there, stands⟩
    rw [there]
    simp only [stands]

/-- What a path leads to stands at that location. -/
lemma at?_of_object {e : Entry} (leads : t.object follow path = .ok (place, e)) : t.at? place = some e :=
  (object_eq_ok_iff.1 leads).2

/-- Where a pipe was removed the path leads to nothing. -/
lemma inspect_erase (leads : t.object false path = .ok (place, .fifo pipe)) :
    (t.erase place).inspect path = .error (.system .noEntry) := by
  obtain ⟨there, stands⟩ := object_eq_ok_iff.1 leads
  have inside : place ≠ [] := by
    rintro rfl
    cases stands
  have gone : (t.erase place).at? place = none := by rw [at?_erase, if_neg inside, if_pos rfl]
  rw [inspect, object, locate_ways (erase_waysIn stands) there]
  simp only [gone]
  rfl

/-- What is found by inspecting a path stands somewhere. -/
lemma object_of_inspect {e : Entry} (there : t.inspect path = .ok e) :
    ∃ place, t.object false path = .ok (place, e) := by
  rw [inspect] at there
  cases leads : t.object false path with
  | error cause =>
    rw [leads] at there
    cases there
  | ok object =>
    rw [leads] at there
    cases there
    exact ⟨object.1, rfl⟩

/-- Inspecting a path finds what the path leads to. -/
lemma inspect_of_object {e : Entry} (leads : t.object false path = .ok (place, e)) :
    t.inspect path = .ok e := by
  rw [inspect, leads]
  rfl

/-- Removing a name changes the tree at one location. -/
lemma unlink_cases (gone : t.unlink path = .ok t') : ∃ place, t' = t.erase place := by
  rw [unlink] at gone
  split at gone
  · cases gone
  · cases gone
  case h_3 place _ _ _ => exact ⟨place, (Except.ok.inj gone).symm⟩

/-- Nothing stands at a location that is free. -/
lemma vacancy_free (free : t.vacancy path = .ok place) : t.at? place = none := by
  obtain ⟨_, _, _, _, _, _, _, _, _, nothing, rfl⟩ := vacancy_cases free
  exact nothing

/-- Making a pipe puts it at the location that is free for it. -/
lemma makeFifo_vacancy {mode inode : Nat} (made : t.makeFifo path mode inode = .ok t') :
    ∃ place bits, t.vacancy path = .ok place ∧
      t' = t.stamped.2.put place (.fifo (t.newPipe inode bits)) := by
  rw [makeFifo] at made
  split at made
  · cases made
  · cases free : t.vacancy path with
    | error cause =>
      rw [free] at made
      cases made
    | ok place =>
      rw [free] at made
      exact ⟨place, _, rfl, (Except.ok.inj made).symm⟩

/-- The path leads to a pipe where it is made. -/
lemma makeFifo_cases {mode inode : Nat} (made : t.makeFifo path mode inode = .ok t') :
    ∃ place bits, t' = t.stamped.2.put place (.fifo (t.newPipe inode bits)) ∧
      ∀ follow pipe, (t.stamped.2.put place (.fifo pipe)).object follow path = .ok (place, .fifo pipe) := by
  obtain ⟨place, bits, free, rfl⟩ := makeFifo_vacancy made
  rw [← vacancy_stamped] at free
  exact ⟨place, bits, rfl, object_put_vacancy free⟩

section Names

/-- A pipe that has a name after a location was erased had one before. -/
lemma names_erase (named : (t.erase place).Names pipe) : t.Names pipe := by
  obtain ⟨other, stands⟩ := named
  rw [at?_erase] at stands
  split at stands
  · cases stands
  · split at stands
    · cases stands
    · exact ⟨other, stands⟩

/-- A tree that stays as it is has lost nothing and gained nothing. -/
lemma Thins.refl (t : FileTree) : t.Thins t := ⟨rfl, fun _ named => named⟩

/-- Erasing a location makes nothing. -/
lemma thins_erase (t : FileTree) (place : Location) : t.Thins (t.erase place) :=
  ⟨rfl, fun _ => names_erase⟩

/-- Only the object that is put somewhere can gain a name. -/
lemma names_put {e : Entry} (named : (t.put place e).Names pipe) : t.Names pipe ∨ e = .fifo pipe := by
  obtain ⟨other, stands⟩ := named
  rw [at?_put] at stands
  split at stands
  · cases stands
  · split at stands
    · exact .inr (Option.some.inj stands)
    · exact .inl ⟨other, stands⟩

/-- Only what stands at a location that is erased loses a name. -/
lemma removes_erase (stands : t.at? place = some (.fifo pipe)) {lost : Fifo} :
    t.Removes (t.erase place) lost ↔ lost = pipe := by
  have inside : place ≠ [] := by
    rintro rfl
    cases stands
  constructor
  · rintro ⟨other, before, after⟩
    rw [at?_erase] at after
    by_cases root : other = []
    · rw [root] at before
      cases before
    rw [if_neg root] at after
    by_cases same : other = place
    · rw [same, stands] at before
      exact ((Entry.fifo.inj (Option.some.inj before))).symm
    · rw [if_neg same] at after
      exact absurd before after
  · rintro rfl
    refine ⟨place, stands, ?_⟩
    rw [at?_erase, if_neg inside, if_pos rfl]
    exact nofun

/-- In a tree that stays as it is no pipe loses a name. -/
lemma not_removes_self (t : FileTree) (lost : Fifo) : ¬t.Removes t lost := by
  rintro ⟨place, before, after⟩
  exact after before

/-- The number of a pipe with a name is in use. -/
lemma mem_pipeNumbers (named : t.Names pipe) : pipe.inode ∈ t.pipeNumbers := by
  obtain ⟨place, stands⟩ := named
  rw [at?] at stands
  split at stands
  · cases stands
  · obtain ⟨⟨other, e⟩, found, rfl⟩ := Option.map_eq_some_iff.1 stands
    exact List.mem_filterMap.2 ⟨_, List.mem_of_find?_eq_some found, rfl⟩

/-- The number for a new pipe is not in use, neither in the tree nor by an open pipe. -/
lemma freeNumber_notMem (t : FileTree) (held : List Nat) :
    t.freeNumber held ∉ t.pipeNumbers ++ held := by
  rw [freeNumber]
  generalize t.pipeNumbers ++ held = used
  cases found : (List.range (used.length + 1)).find? fun n => n ∉ used with
  | some n => simpa using List.find?_some found
  | none =>
    -- more numbers are tried than are used
    have all : List.range (used.length + 1) ⊆ used := fun n mem => by
      simpa using List.find?_eq_none.1 found n mem
    have long := (List.nodup_range.subperm all).length_le
    rw [List.length_range] at long
    omega

end Names

end FileTree

end PlanarPipe
