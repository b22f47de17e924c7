import Mathlib.Logic.Function.Basic
import PlanarPipe.Proofs.Fifo.Opening

/-!
# Owners that share a path

Any number of owners open, close and drop their pipes, and other processes change the tree in between.
The system tells the pipes that live by their numbers: a pipe lives while it has a name or somebody has
it open, and after that its number may be given to another one. An owner recognises its pipe by the
number alone. While it has the pipe open nothing else has that number (`Scene.Sound`); once it has closed
the pipe it may take a later one for its own, and `Scene.removes_own_iff` says exactly when.
-/

namespace PlanarPipe

/-- Owners and the tree that they share. -/
structure Scene where
  tree : FileTree
  owner : Nat → Owner
  /-- The stamps of the pipes that each owner has made. -/
  made : Nat → List Nat

/-- The pipe has a name, or an owner has it open. -/
def Live (t : FileTree) (owner : Nat → Owner) (pipe : Fifo) : Prop :=
  t.Names pipe ∨ ∃ i, (owner i).stream = some pipe

/-- Two pipes that live do not have the same number. -/
def Distinct (t : FileTree) (owner : Nat → Owner) : Prop :=
  ∀ p q, Live t owner p → Live t owner q → p.inode = q.inode → p.stamp = q.stamp

/-- What other processes may do to a tree: they move, remove and replace what there is, and make new
objects. No stamp is given twice, and no number that a living pipe has. -/
structure Interferes (t : FileTree) (owner : Nat → Owner) (t' : FileTree) : Prop where
  births : t.births ≤ t'.births
  /-- A pipe that is not new lived before, though its mode may have been another one. -/
  kept : ∀ pipe, t'.Names pipe → pipe.stamp < t.births →
    ∃ before, Live t owner before ∧ before.stamp = pipe.stamp ∧ before.inode = pipe.inode
  young : ∀ pipe, t'.Names pipe → pipe.stamp < t'.births
  distinct : Distinct t' owner

namespace Scene

/-- The stamps that were given while one tree became the other. -/
def born (t t' : FileTree) : List Nat := List.range' t.births (t'.births - t.births)

def opening (s : Scene) (i : Nat) (arrival : Arrival) : Scene :=
  let turn := (s.owner i).openFifo arrival s.tree
  { tree := turn.tree
    owner := Function.update s.owner i turn.owner
    made := Function.update s.made i (born s.tree turn.tree ++ s.made i) }

def closing (s : Scene) (i : Nat) : Scene :=
  let turn := (s.owner i).close s.tree
  { s with tree := turn.tree, owner := Function.update s.owner i turn.owner }

/-- An owner is dropped, which closes its pipe, and another one takes its place. -/
def dropping (s : Scene) (i : Nat) (path : String) (mode : Nat) : Scene :=
  { s.closing i with
    owner := Function.update s.owner i (.start path mode)
    made := Function.update s.made i [] }

inductive Step : Scene → Scene → Prop where
  /-- The number for a new pipe is given once room was made for it. -/
  | opens {s} (i : Nat) (arrival : Arrival) :
    (∀ room, ((s.owner i).clear s.tree).2 = .ok room →
      ∀ pipe, Live room s.owner pipe → pipe.inode ≠ arrival.inode) →
    Step s (s.opening i arrival)
  | closes {s} (i : Nat) :
    Step s (s.closing i)
  | drops {s} (i : Nat) (path : String) (mode : Nat) :
    Step s (s.dropping i path mode)
  | others {s t} :
    Interferes s.tree s.owner t →
    Step s { s with tree := t }

/-- No owner has done anything yet. -/
structure Begins (s : Scene) : Prop where
  fresh : ∀ i, ∃ path mode, s.owner i = .start path mode
  nothing : ∀ i, s.made i = []
  young : ∀ pipe, s.tree.Names pipe → pipe.stamp < s.tree.births
  distinct : Distinct s.tree s.owner

inductive Reached : Scene → Prop where
  | start {s} :
    Begins s →
    Reached s
  | step {s s'} :
    Reached s →
    Step s s' →
    Reached s'

/-- What holds of every scene that is reached. -/
structure Sound (s : Scene) : Prop where
  young : ∀ pipe, s.tree.Names pipe → pipe.stamp < s.tree.births
  distinct : Distinct s.tree s.owner
  /-- The pipe that an owner has open is one that it made, and the one it remembers. -/
  own : ∀ i pipe, (s.owner i).stream = some pipe →
    (s.owner i).made = some pipe.inode ∧ pipe.stamp ∈ s.made i
  remembers : ∀ i, s.made i ≠ [] → (s.owner i).made ≠ none

end Scene

section Trees

variable {t t' : FileTree} {owner owner' : Nat → Owner}

/-- Where fewer pipes live, no two of them have the same number either. -/
lemma Distinct.mono (distinct : Distinct t owner) (fewer : ∀ pipe, Live t' owner' pipe → Live t owner pipe) :
    Distinct t' owner' :=
  fun p q live live' => distinct p q (fewer p live) (fewer q live')

/-- A new pipe with a free number leaves the numbers of all living pipes distinct. -/
lemma Distinct.newPipe {number : Nat} (mode : Nat) (distinct : Distinct t owner)
    (free : ∀ pipe, Live t owner pipe → pipe.inode ≠ number)
    (fewer : ∀ pipe, Live t' owner' pipe → pipe = t.newPipe number mode ∨ Live t owner pipe) :
    Distinct t' owner' := by
  intro p q live live' same
  rcases fewer p live with rfl | live <;> rcases fewer q live' with rfl | live'
  · rfl
  · exact absurd same.symm (free q live')
  · exact absurd same (free p live)
  · exact distinct p q live live' same

/-- The pipes that have a name are the new one and those that had one before. -/
lemma FileTree.names_newPipe {place : Location} {number mode : Nat} {pipe : Fifo}
    (named : (t.stamped.2.put place (.fifo (t.newPipe number mode))).Names pipe) :
    pipe = t.newPipe number mode ∨ t.Names pipe := by
  rcases FileTree.names_put named with named | made
  · exact .inr named
  · exact .inl (Entry.fifo.inj made).symm

/-- A process that makes a pipe with a free number, anywhere in the tree, does what it may. -/
lemma newPipe_interferes {number : Nat} (place : Location) (mode : Nat)
    (young : ∀ pipe, t.Names pipe → pipe.stamp < t.births) (distinct : Distinct t owner)
    (free : ∀ pipe, Live t owner pipe → pipe.inode ≠ number) :
    Interferes t owner (t.stamped.2.put place (.fifo (t.newPipe number mode))) where
  births := Nat.le_succ _
  kept pipe named old := by
    rcases FileTree.names_newPipe named with rfl | named
    · exact absurd old (Nat.lt_irrefl _)
    · exact ⟨pipe, .inl named, rfl, rfl⟩
  young pipe named := by
    rcases FileTree.names_newPipe named with rfl | named
    · exact Nat.lt_succ_self _
    · exact Nat.lt_succ_of_lt (young pipe named)
  distinct := by
    refine distinct.newPipe mode free fun pipe live => ?_
    rcases live with named | opened
    · exact (FileTree.names_newPipe named).imp_right .inl
    · exact .inr (.inr opened)

/-- A process that makes a pipe at a path does what it may, if the number is free. -/
lemma makeFifo_interferes {path : String} {mode number : Nat}
    (young : ∀ pipe, t.Names pipe → pipe.stamp < t.births) (distinct : Distinct t owner)
    (free : ∀ pipe, Live t owner pipe → pipe.inode ≠ number)
    (made : t.makeFifo path mode number = .ok t') : Interferes t owner t' := by
  obtain ⟨place, bits, rfl, -⟩ := FileTree.makeFifo_cases made
  exact newPipe_interferes place bits young distinct free

/-- A process that renames a new pipe over what is at a path does what it may, if the number is free. -/
lemma replaceWithFifo_interferes {path : String} {mode number : Nat}
    (young : ∀ pipe, t.Names pipe → pipe.stamp < t.births) (distinct : Distinct t owner)
    (free : ∀ pipe, Live t owner pipe → pipe.inode ≠ number)
    (made : t.replaceWithFifo path mode number = .ok t') : Interferes t owner t' := by
  rw [FileTree.replaceWithFifo] at made
  split at made
  · cases made
  case h_2 place _ =>
    split at made
    · cases made
    · obtain rfl := Except.ok.inj made
      exact newPipe_interferes place mode young distinct free

/-- The number that the system gives is not that of a living pipe. -/
lemma freeNumber_free {held : List Nat} (holds : ∀ i pipe, (owner i).stream = some pipe → pipe.inode ∈ held) :
    ∀ pipe, Live t owner pipe → pipe.inode ≠ t.freeNumber held := by
  intro pipe live same
  have taken : pipe.inode ∈ t.pipeNumbers ++ held := by
    rcases live with named | ⟨i, opened⟩
    · exact List.mem_append_left _ (FileTree.mem_pipeNumbers named)
    · exact List.mem_append_right _ (holds i pipe opened)
  exact t.freeNumber_notMem held (same ▸ taken)

end Trees

namespace Scene

variable {s s' : Scene}

/-- A scene in which nobody has done anything is sound. -/
lemma Begins.sound (begins : Begins s) : Sound s where
  young := begins.young
  distinct := begins.distinct
  own i pipe opened := by
    obtain ⟨path, mode, fresh⟩ := begins.fresh i
    rw [fresh] at opened
    cases opened
  remembers i creator := absurd (begins.nothing i) creator

/-- Where one owner comes to have no pipe open, no more pipes live than before. -/
lemma live_update {t : FileTree} {i : Nat} {o : Owner} {pipe : Fifo} (idle : o.stream = none)
    (live : Live t (Function.update s.owner i o) pipe) : Live t s.owner pipe := by
  rcases live with named | ⟨j, opened⟩
  · exact .inl named
  · by_cases same : j = i
    · rw [same, Function.update_self, idle] at opened
      cases opened
    · rw [Function.update_of_ne same] at opened
      exact .inr ⟨j, opened⟩

/-- What is to be shown where one owner and the tree have changed. -/
lemma Sound.update {t : FileTree} {o : Owner} {stamps : List Nat} (sound : Sound s) (i : Nat)
    (young : ∀ pipe, t.Names pipe → pipe.stamp < t.births)
    (distinct : Distinct t (Function.update s.owner i o))
    (own : ∀ pipe, o.stream = some pipe → o.made = some pipe.inode ∧ pipe.stamp ∈ stamps)
    (remembers : stamps ≠ [] → o.made ≠ none) :
    Sound ⟨t, Function.update s.owner i o, Function.update s.made i stamps⟩ where
  young := young
  distinct := distinct
  own j pipe opened := by
    by_cases same : j = i
    · subst same
      simp only [Function.update_self] at opened ⊢
      exact own pipe opened
    · simp only [Function.update_of_ne same] at opened ⊢
      exact sound.own j pipe opened
  remembers j := by
    by_cases same : j = i
    · subst same
      simp only [Function.update_self]
      exact remembers
    · simp only [Function.update_of_ne same]
      exact sound.remembers j

/-- An owner with no pipe open in a tree that has lost names. -/
lemma Sound.idle {t : FileTree} {o : Owner} {stamps : List Nat} (sound : Sound s) (i : Nat)
    (thins : s.tree.Thins t) (idle : o.stream = none) (remembers : stamps ≠ [] → o.made ≠ none) :
    Sound ⟨t, Function.update s.owner i o, Function.update s.made i stamps⟩ := by
  refine sound.update i (fun pipe named => ?_) ?_ (fun pipe opened => ?_) remembers
  · rw [thins.births]
    exact sound.young pipe (thins.names pipe named)
  · exact sound.distinct.mono fun pipe live => (live_update idle live).imp_left (thins.names pipe)
  · rw [idle] at opened
    cases opened

/-- A scene stays sound when an owner closes its pipe. -/
lemma Sound.closing (sound : Sound s) (i : Nat) : Sound (s.closing i) := by
  have thins := ((s.owner i).removeFifo_withdraws s.tree).thins
  have closed := sound.idle (o := ((s.owner i).close s.tree).owner) i thins rfl (sound.remembers i)
  rwa [Function.update_eq_self] at closed

/-- A scene stays sound when an owner is dropped and another one takes its place. -/
lemma Sound.dropping (sound : Sound s) (i : Nat) (path : String) (mode : Nat) :
    Sound (s.dropping i path mode) :=
  sound.idle i ((s.owner i).removeFifo_withdraws s.tree).thins rfl (absurd rfl)

/-- Where no stamp was given none was born. -/
lemma born_of_births {t t' : FileTree} (same : t'.births = t.births) : born t t' = [] := by
  rw [born, same, Nat.sub_self, List.range'_zero]

/-- An owner has made a pipe, and may have it open. -/
lemma Sound.making {t room : FileTree} {o : Owner} {place : Location} {number mode : Nat} (sound : Sound s)
    (i : Nat) (thins : s.tree.Thins room)
    (free : ∀ pipe, Live room s.owner pipe → pipe.inode ≠ number)
    (left : (room.stamped.2.put place (.fifo (room.newPipe number mode))).Thins t)
    (opened : ∀ pipe, o.stream = some pipe → pipe = room.newPipe number mode)
    (remembered : o.made = some number) :
    Sound ⟨t, Function.update s.owner i o, Function.update s.made i (born s.tree t ++ s.made i)⟩ := by
  have births : t.births = room.births + 1 := left.births
  have names : ∀ pipe, t.Names pipe → pipe = room.newPipe number mode ∨ room.Names pipe :=
    fun pipe named => FileTree.names_newPipe (left.names pipe named)
  have distinct : Distinct room s.owner :=
    sound.distinct.mono fun pipe live => live.imp_left (thins.names pipe)
  -- the new pipe has the stamp that comes next and a number that is free, so that it is like no other
  refine sound.update i (fun pipe named => ?_) (distinct.newPipe mode free fun pipe live => ?_)
    (fun pipe mine => ?_) fun _ => by rw [remembered]; exact nofun
  · rw [births]
    rcases names pipe named with rfl | named
    · exact Nat.lt_succ_self _
    · rw [thins.births]
      exact Nat.lt_succ_of_lt (sound.young pipe (thins.names pipe named))
  · rcases live with named | ⟨j, live⟩
    · exact (names pipe named).imp_right .inl
    · by_cases same : j = i
      · rw [same, Function.update_self] at live
        exact .inl (opened pipe live)
      · rw [Function.update_of_ne same] at live
        exact .inr (.inr ⟨j, live⟩)
  · obtain rfl := opened pipe mine
    refine ⟨remembered, List.mem_append_left _ ?_⟩
    rw [born, births, thins.births, Nat.add_sub_cancel_left]
    exact List.mem_singleton.2 thins.births

/-- A scene stays sound when an owner opens its pipe, whatever comes of it, if the number is free. -/
lemma Sound.opening (sound : Sound s) (i : Nat) (arrival : Arrival)
    (free : ∀ room, ((s.owner i).clear s.tree).2 = .ok room →
      ∀ pipe, Live room s.owner pipe → pipe.inode ≠ arrival.inode) :
    Sound (s.opening i arrival) := by
  have opens := (s.owner i).openFifo_opens arrival s.tree
  rw [Scene.opening]
  generalize (s.owner i).openFifo arrival s.tree = turn at opens ⊢
  obtain ⟨o, t, events, failure⟩ := turn
  simp only at opens ⊢
  cases opens with
  | refused =>
    rw [born_of_births rfl, List.nil_append, Function.update_eq_self, Function.update_eq_self]
    exact sound
  | cleared idle cleared =>
    have thins := Owner.clear_thins cleared
    rw [born_of_births thins.births]
    exact sound.idle i thins (Owner.stream_of_idle idle) (sound.remembers i)
  | joined idle cleared =>
    exact sound.making i (Owner.clear_thins cleared) (free _ cleared) (.refl _)
      (fun pipe opened => (Option.some.inj opened).symm) rfl
  | abandoned idle cleared =>
    refine sound.making i (Owner.clear_thins cleared) (free _ cleared) (FileTree.thins_erase ..)
      (fun pipe opened => ?_) rfl
    rw [Owner.stream_of_idle idle] at opened
    cases opened

/-- A scene stays sound in each step. -/
lemma Step.sound (step : Step s s') (sound : Sound s) : Sound s' := by
  cases step with
  | opens i arrival free => exact sound.opening i arrival free
  | closes i => exact sound.closing i
  | drops i path mode => exact sound.dropping i path mode
  | others interferes =>
    exact ⟨interferes.young, interferes.distinct, sound.own, sound.remembers⟩

/-- All scenes that are reached are sound. -/
lemma Reached.sound (reached : Reached s) : Sound s := by
  induction reached with
  | start begins => exact begins.sound
  | step _ step ih => exact step.sound ih

/-- An owner that has made a pipe removes none but its own by closing or being dropped, unless it is
closed already and the pipe at its path, which it did not make, was given the number of the one that it
made last. -/
theorem removes_own_iff (reached : s.Reached) (i : Nat) (creator : s.made i ≠ []) :
    (∀ pipe, s.tree.Removes (s.closing i).tree pipe → pipe.stamp ∈ s.made i) ↔
      ¬((s.owner i).isOpen = false ∧
        ∃ pipe, s.tree.inspect (s.owner i).path = .ok (.fifo pipe) ∧
          (s.owner i).made = some pipe.inode ∧ pipe.stamp ∉ s.made i) := by
  have sound := reached.sound
  have withdraws := (s.owner i).removeFifo_withdraws s.tree
  change (s.owner i).Withdraws s.tree (s.closing i).tree at withdraws
  constructor
  · rintro own ⟨-, pipe, there, number, foreign⟩
    obtain ⟨place, leads⟩ := FileTree.object_of_inspect there
    have gone := withdraws.own leads number
    refine foreign (own pipe ?_)
    rw [gone, FileTree.removes_erase (FileTree.at?_of_object leads)]
  · intro blameless lost removes
    generalize (s.closing i).tree = t at withdraws removes
    cases withdraws with
    | kept => exact absurd removes (FileTree.not_removes_self _ _)
    | @removed place pipe leads number =>
      have stands := FileTree.at?_of_object leads
      rw [FileTree.removes_erase stands] at removes
      subst removes
      have number := number.resolve_left (sound.remembers i creator)
      cases opened : (s.owner i).stream with
      | none =>
        have idle : (s.owner i).isOpen = false := by rw [Owner.isOpen, opened]; rfl
        by_contra foreign
        exact blameless ⟨idle, lost, FileTree.inspect_of_object leads, number, foreign⟩
      | some pipe =>
        -- the pipe that is open lives, so no other one has its number
        obtain ⟨remembered, mine⟩ := sound.own i pipe opened
        rw [remembered] at number
        have same := sound.distinct pipe lost (.inr ⟨i, opened⟩) (.inl ⟨place, stands⟩)
          (Option.some.inj number)
        rw [← same]
        exact mine

/-- Owners of a path where nothing is yet. -/
def emptyScene : Scene where
  tree := {}
  owner _ := .start "f.fifo" Owner.standardMode
  made _ := []

/-- The first of them has opened its pipe. -/
def openedScene : Scene := emptyScene.opening 0 { inode := emptyScene.tree.freeNumber [] }

/-- Nobody has done anything in the empty scene. -/
lemma emptyScene_begins : Begins emptyScene where
  fresh _ := ⟨_, _, rfl⟩
  nothing _ := rfl
  young pipe named := absurd named (FileTree.not_names_empty pipe)
  distinct p q live := by
    rcases live with named | ⟨i, opened⟩
    · exact absurd named (FileTree.not_names_empty p)
    · cases opened

/-- The scene with the open pipe is reached. -/
lemma openedScene_reached : Reached openedScene := by
  have quiet : ∀ i pipe, (emptyScene.owner i).stream = some pipe → pipe.inode ∈ ([] : List Nat) :=
    fun i pipe opened => by cases opened
  refine .step (.start emptyScene_begins) (.opens 0 _ fun room cleared => ?_)
  obtain rfl : emptyScene.tree = room := Except.ok.inj cleared
  exact freeNumber_free quiet

/-- While the pipe is open another process has renamed one of its own over it. -/
def replacedScene : Scene :=
  { openedScene with tree := { entries := [(["f.fifo"], .fifo ⟨1, 1, 0o600⟩)], births := 2 } }

/-- The pipe was closed, and another process has made one that was given its number. -/
def reusedScene : Scene :=
  { openedScene.closing 0 with tree := { entries := [(["f.fifo"], .fifo ⟨1, 0, 0o600⟩)], births := 2 } }

/-- The scene is reached in which the open pipe was replaced. -/
lemma replacedScene_reached : Reached replacedScene := by
  have sound := openedScene_reached.sound
  have open0 : ∀ i pipe, (openedScene.owner i).stream = some pipe → pipe.inode ∈ [0] := by
    intro i pipe opened
    cases i with
    | zero =>
      obtain rfl := Option.some.inj opened
      exact List.mem_singleton_self _
    | succ i => cases opened
  have made : openedScene.tree.replaceWithFifo "f.fifo" 0o600 (openedScene.tree.freeNumber [0]) =
      .ok replacedScene.tree := rfl
  exact .step openedScene_reached
    (.others (replaceWithFifo_interferes sound.young sound.distinct (freeNumber_free open0) made))

/-- The scene is reached in which the number was given again. -/
lemma reusedScene_reached : Reached reusedScene := by
  have closed := Reached.step openedScene_reached (.closes 0)
  have quiet : ∀ i pipe, ((openedScene.closing 0).owner i).stream = some pipe → pipe.inode ∈ ([] : List Nat) := by
    intro i pipe opened
    cases i with
    | zero => cases opened
    | succ i => cases opened
  have made : (openedScene.closing 0).tree.makeFifo "f.fifo" 0o600
      ((openedScene.closing 0).tree.freeNumber []) = .ok reusedScene.tree := rfl
  exact .step closed
    (.others (makeFifo_interferes closed.sound.young closed.sound.distinct (freeNumber_free quiet) made))

/-- An owner whose pipe was replaced while it had it open leaves the other one alone. -/
theorem removes_own_iff_replaced :
    replacedScene.Reached ∧ replacedScene.made 0 = [0] ∧
      ∀ pipe, replacedScene.tree.Removes (replacedScene.closing 0).tree pipe →
        pipe.stamp ∈ replacedScene.made 0 :=
  ⟨replacedScene_reached, rfl, (removes_own_iff replacedScene_reached 0 (List.cons_ne_nil 0 [])).2
    fun idle => Bool.noConfusion idle.1⟩

/-- An owner that has closed its pipe and is closed again may remove a pipe that it did not make. -/
theorem removes_reused :
    ¬∀ (s : Scene) (i : Nat), s.Reached → s.made i ≠ [] →
      ∀ pipe, s.tree.Removes (s.closing i).tree pipe → pipe.stamp ∈ s.made i := by
  intro own
  have stands : reusedScene.tree.at? ["f.fifo"] = some (.fifo ⟨1, 0, 0o600⟩) := rfl
  have removes : reusedScene.tree.Removes (reusedScene.closing 0).tree ⟨1, 0, 0o600⟩ :=
    ⟨["f.fifo"], stands, nofun⟩
  have mine := own reusedScene 0 reusedScene_reached (List.cons_ne_nil 0 []) _ removes
  change 1 ∈ [0] at mine
  exact absurd mine (by decide)

end Scene

end PlanarPipe
