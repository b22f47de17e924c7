import PlanarPipe.Proofs.Fifo.Refusal

/-!
# What an owner leaves at its path

One owner opens and closes its pipe, calls of it are refused, and others change the tree in between
(`Tenancy.Step`). Being dropped is being closed once more. An owner recognises its pipe by the number that it
remembers: in every tenancy that is reached this is the number of the pipe made last, as long as that one is
there (`Tenancy.Sound`). Main statement: `Tenancy.footprint`. It takes for granted that names are removed and
permission bits are set when an owner asks for it, and says where it is needed besides that the owner is told
what it is about to remove.
-/

namespace PlanarPipe

/-- An owner, the tree that it makes its pipes in, and the stamps of those that it has made, the newest
first. -/
structure Tenancy where
  owner : Owner
  tree : FileTree
  made : List Nat

namespace Tenancy

/-- An owner that has done nothing yet. -/
def start (path : String) (mode : Nat) (t : FileTree) : Tenancy := ⟨.start path mode, t, []⟩

def opening (s : Tenancy) (refuses : Refusals) (arrival : Arrival) : Tenancy :=
  let turn := s.owner.openFifoWithin refuses arrival s.tree
  { owner := turn.owner
    tree := turn.tree
    made := List.range' s.tree.births (turn.tree.births - s.tree.births) ++ s.made }

def closing (s : Tenancy) (refuses : Refusals) : Tenancy :=
  let turn := s.owner.closeWithin refuses s.tree
  { s with owner := turn.owner, tree := turn.tree }

/-- The pipe has a name, or the owner has it open. -/
def Present (s : Tenancy) (pipe : Fifo) : Prop := s.tree.Names pipe ∨ s.owner.stream = some pipe

/-- What others may do to the tree. They make, replace and remove objects of any kind as they like. A pipe
keeps its number, none comes back that is gone, and no stamp is given twice. -/
structure Alters (s : Tenancy) (t : FileTree) : Prop where
  births : s.tree.births ≤ t.births
  kept : ∀ pipe, t.Names pipe → pipe.stamp < s.tree.births →
    ∃ before, s.Present before ∧ before.stamp = pipe.stamp ∧ before.inode = pipe.inode
  young : ∀ pipe, t.Names pipe → pipe.stamp < t.births

inductive Step : Tenancy → Tenancy → Prop where
  | opens {s : Tenancy} {refuses : Refusals} (arrival : Arrival) :
    refuses.Lenient →
    Step s (s.opening refuses arrival)
  | closes {s : Tenancy} {refuses : Refusals} :
    refuses.Lenient →
    Step s (s.closing refuses)
  | others {s : Tenancy} {t : FileTree} :
    s.Alters t →
    Step s { s with tree := t }

/-- What an owner of a path that asks for the bits `mode` can come to. -/
inductive Reached (path : String) (mode : Nat) : Tenancy → Prop where
  | start {t : FileTree} :
    (∀ pipe, t.Names pipe → pipe.stamp < t.births) →
    Reached path mode (.start path mode t)
  | step {s s' : Tenancy} :
    Reached path mode s →
    Step s s' →
    Reached path mode s'

/-- What holds of every tenancy that is reached. -/
structure Sound (path : String) (mode : Nat) (s : Tenancy) : Prop where
  path : s.owner.path = path
  mode : s.owner.mode = mode
  young : ∀ pipe, s.tree.Names pipe → pipe.stamp < s.tree.births
  bounded : ∀ stamp ∈ s.made, stamp < s.tree.births
  /-- The pipe made last is the one that the owner remembers, if there still is such a pipe. -/
  latest : ∀ stamp, s.made.head? = some stamp → ∀ pipe, s.Present pipe → pipe.stamp = stamp →
    s.owner.made = some pipe.inode
  forgets : s.made = [] → s.owner.made = none

variable {path : String} {mode : Nat} {s s' : Tenancy} {refuses : Refusals} {t : FileTree}

/-- An owner that has done nothing is sound in a tree whose pipes were all made in its past. -/
lemma Sound.start (young : ∀ pipe, t.Names pipe → pipe.stamp < t.births) :
    Sound path mode (.start path mode t) where
  path := rfl
  mode := rfl
  young := young
  bounded := List.forall_mem_nil _
  latest := nofun
  forgets _ := rfl

/-- Names were lost, and the owner has no pipe open. -/
lemma Sound.lose {o : Owner} (sound : s.Sound path mode) (thins : s.tree.Thins t)
    (same : o.path = s.owner.path) (bits : o.mode = s.owner.mode) (remembered : o.made = s.owner.made)
    (idle : o.stream = none) : Sound path mode ⟨o, t, s.made⟩ where
  path := same.trans sound.path
  mode := bits.trans sound.mode
  young pipe named := by
    rw [thins.births]
    exact sound.young pipe (thins.names pipe named)
  bounded stamp mem := by
    rw [thins.births]
    exact sound.bounded stamp mem
  latest := by
    intro stamp last pipe present same
    rw [remembered]
    rcases present with named | opened
    · exact sound.latest stamp last pipe (.inl (thins.names pipe named)) same
    · rw [idle] at opened
      cases opened
  forgets none := remembered.trans (sound.forgets none)

/-- A pipe was made and taken away again, so that there is none that was made last. -/
lemma Sound.undo {o : Owner} {number : Nat} {place : Location} (sound : s.Sound path mode)
    (makes : s.owner.Makes number s.tree t place) (same : o.path = s.owner.path)
    (bits : o.mode = s.owner.mode) (idle : o.stream = none) :
    Sound path mode ⟨o, t.erase place, s.tree.births :: s.made⟩ where
  path := same.trans sound.path
  mode := bits.trans sound.mode
  young pipe named := Nat.lt_of_lt_of_eq (Nat.lt_succ_of_lt (sound.young pipe (makes.names_erase named)))
    makes.births.symm
  bounded stamp mem := by
    refine Nat.lt_of_lt_of_eq ?_ makes.births.symm
    cases mem with
    | head => exact Nat.lt_succ_self _
    | tail _ mem => exact Nat.lt_succ_of_lt (sound.bounded stamp mem)
  latest := by
    rintro _ ⟨⟩ pipe present same
    rcases present with named | opened
    · exact absurd same (Nat.ne_of_lt (sound.young pipe (makes.names_erase named)))
    · rw [idle] at opened
      cases opened
  forgets := nofun

/-- A pipe was made, and is there. -/
lemma Sound.make {o : Owner} {number : Nat} {place : Location} (sound : s.Sound path mode)
    (makes : s.owner.Makes number s.tree t place) (same : o.path = s.owner.path)
    (bits : o.mode = s.owner.mode) (remembered : o.made = some number)
    (opened : ∀ pipe, o.stream = some pipe → pipe = s.owner.nextPipe number s.tree) :
    Sound path mode ⟨o, t, s.tree.births :: s.made⟩ where
  path := same.trans sound.path
  mode := bits.trans sound.mode
  young pipe named := by
    rw [makes.births]
    rcases makes.names named with rfl | named
    · exact Nat.lt_succ_self _
    · exact Nat.lt_succ_of_lt (sound.young pipe named)
  bounded := by
    intro stamp mem
    rw [makes.births]
    cases mem with
    | head => exact Nat.lt_succ_self _
    | tail _ mem => exact Nat.lt_succ_of_lt (sound.bounded stamp mem)
  latest := by
    rintro _ ⟨⟩ pipe present same
    rw [remembered]
    rcases present with named | mine
    · rcases makes.names named with rfl | named
      · rfl
      · exact absurd same (Nat.ne_of_lt (sound.young pipe named))
    · obtain rfl := opened pipe mine
      rfl
  forgets := nofun

/-- An owner that opens its pipe stays sound, whatever comes of it. -/
lemma Sound.opening (sound : s.Sound path mode) (lenient : refuses.Lenient) (arrival : Arrival) :
    (s.opening refuses arrival).Sound path mode := by
  have tries := s.owner.openFifoWithin_tries lenient arrival s.tree
  rw [Tenancy.opening]
  generalize s.owner.openFifoWithin refuses arrival s.tree = turn at tries ⊢
  obtain ⟨o, t, events, failure⟩ := turn
  simp only at tries ⊢
  -- a case for each point at which opening can end, with the tree as it is left there
  cases tries with
  | busy =>
    rw [Nat.sub_self]
    exact sound
  | unmade idle clears =>
    rw [clears.thins.births, Nat.sub_self]
    exact sound.lose clears.thins rfl rfl rfl (Owner.stream_of_idle idle)
  | unclaimed idle makes =>
    rw [FileTree.births_erase, makes.born]
    exact sound.undo makes rfl rfl (Owner.stream_of_idle idle)
  | abandoned idle makes =>
    rw [FileTree.births_erase, makes.born]
    exact sound.undo makes rfl rfl (Owner.stream_of_idle idle)
  | joined idle makes =>
    rw [makes.born]
    exact sound.make makes rfl rfl rfl fun pipe opened => (Option.some.inj opened).symm
  | stranded idle makes =>
    rw [makes.born]
    refine sound.make makes rfl rfl rfl fun pipe opened => ?_
    rw [Owner.stream_of_idle idle] at opened
    cases opened

/-- An owner that closes its pipe stays sound. -/
lemma Sound.closing (sound : s.Sound path mode) (lenient : refuses.Lenient) :
    (s.closing refuses).Sound path mode := by
  have thins : s.tree.Thins (s.owner.removeFifoWithin refuses s.tree).2 := by
    rw [Owner.removeFifoWithin_tree lenient]
    split
    · exact (s.owner.removeFifo_withdraws s.tree).thins
    · exact .refl _
  exact sound.lose thins rfl rfl rfl rfl

/-- An owner stays sound whatever others do to the tree. -/
lemma Sound.others (sound : s.Sound path mode) (alters : s.Alters t) :
    Sound path mode { s with tree := t } where
  path := sound.path
  mode := sound.mode
  young := alters.young
  bounded stamp mem := Nat.lt_of_lt_of_le (sound.bounded stamp mem) alters.births
  latest := by
    intro stamp last pipe present same
    rcases present with named | opened
    · have old : pipe.stamp < s.tree.births := same ▸ sound.bounded stamp (List.mem_of_mem_head? last)
      obtain ⟨before, present, stamps, numbers⟩ := alters.kept pipe named old
      rw [← numbers]
      exact sound.latest stamp last before present (stamps.trans same)
    · exact sound.latest stamp last pipe (.inr opened) same
  forgets := sound.forgets

/-- An owner stays sound in each step. -/
lemma Step.sound (step : Step s s') (sound : s.Sound path mode) : s'.Sound path mode := by
  cases step with
  | opens arrival lenient => exact sound.opening lenient arrival
  | closes lenient => exact sound.closing lenient
  | others alters => exact sound.others alters

/-- An owner is sound in all scenes that are reached. -/
lemma Reached.sound (reached : s.Reached path mode) : s.Sound path mode := by
  induction reached with
  | start young => exact .start young
  | step _ step ih => exact step.sound ih

section Footprint

variable {arrival : Arrival}

/-- The bits of a mode for the user, the group and others are all permission bits. -/
lemma bits_of_le {mode : Nat} (bits : mode ≤ 0o777) :
    mode &&& FileTree.permissionBits = mode ∧ mode &&& FileTree.foreignKinds = 0 := by
  have all : ∀ mode < 0o1000, mode &&& FileTree.permissionBits = mode ∧ mode &&& FileTree.foreignKinds = 0 := by
    decide +kernel
  exact all mode (Nat.lt_succ_of_le bits)

/-- After opening has succeeded the new pipe is all that has changed. -/
lemma Sound.opened (sound : s.Sound path mode) (bits : mode ≤ 0o777) (lenient : refuses.Lenient)
    (alive : (s.owner.openFifoWithin refuses arrival s.tree).failure = none) :
    ∃ place, s.tree.locate false path = .ok place ∧ s.tree.at? place ≠ some .directory ∧
      let turn := s.owner.openFifoWithin refuses arrival s.tree
      let pipe : Fifo := ⟨s.tree.births, arrival.inode, mode⟩
      turn.owner.stream = some pipe ∧ turn.tree.object false path = .ok (place, .fifo pipe) ∧
        (∀ before, s.tree.Names before → before.stamp ≠ pipe.stamp) ∧
        (∀ other, other ≠ place → turn.tree.at? other = s.tree.at? other) ∧
        turn.tree.contents = s.tree.contents := by
  have pipe : s.owner.nextPipe arrival.inode s.tree = ⟨s.tree.births, arrival.inode, mode⟩ := by
    rw [Owner.nextPipe, FileTree.newPipe, sound.mode, (bits_of_le bits).1]
  obtain ⟨owner, place, located, vacant, leads, others, -, contents⟩ := Owner.openFifoWithin_makes lenient alive
  rw [sound.path] at located leads
  rw [pipe] at owner leads
  exact ⟨place, located, vacant, congrArg Owner.stream owner, leads,
    fun before named => Nat.ne_of_lt (sound.young before named), others, contents⟩

/-- After opening a closed pipe has failed, it is closed, and nothing that was made is left. -/
lemma Sound.failed (sound : s.Sound path mode) (lenient : refuses.Lenient) (idle : s.owner.isOpen = false)
    (failed : (s.owner.openFifoWithin refuses arrival s.tree).failure ≠ none) :
    let turn := s.owner.openFifoWithin refuses arrival s.tree
    turn.owner.isOpen = false ∧ (s.tree.inspect path = .ok .directory → turn.tree = s.tree) ∧
      (refuses .find = none → ∀ pipe, turn.tree.Names pipe → s.tree.Names pipe) := by
  have tries := s.owner.openFifoWithin_tries lenient arrival s.tree
  generalize s.owner.openFifoWithin refuses arrival s.tree = turn at tries failed ⊢
  obtain ⟨o, t, events, failure⟩ := turn
  simp only at tries failed ⊢
  -- where a directory stands at the path no pipe is made
  have unmade : ∀ {t' place}, s.owner.Makes arrival.inode s.tree t' place →
      s.tree.inspect path ≠ .ok .directory := by
    intro t' place makes directory
    obtain ⟨there, leads⟩ := FileTree.object_of_inspect directory
    obtain ⟨located, stands⟩ := FileTree.object_eq_ok_iff.1 leads
    rw [← sound.path, makes.located] at located
    cases located
    exact makes.vacant stands
  cases tries with
  | busy busy =>
    rw [idle] at busy
    cases busy
  | unmade _ clears =>
    refine ⟨idle, fun directory => ?_, fun _ => clears.thins.names⟩
    cases clears with
    | kept => rfl
    | removed leads other =>
      rw [sound.path] at leads
      rw [FileTree.inspect_of_object leads] at directory
      exact absurd (Except.ok.inj directory) other
  | unclaimed _ makes =>
    exact ⟨idle, fun directory => absurd directory (unmade makes), fun _ _ => makes.names_erase⟩
  | abandoned _ makes =>
    exact ⟨idle, fun directory => absurd directory (unmade makes), fun _ _ => makes.names_erase⟩
  | stranded _ makes refused =>
    exact ⟨idle, fun directory => absurd directory (unmade makes), fun told => absurd told refused⟩
  | joined => exact absurd rfl failed

/-- Closing removes the pipe at the path if it is the one made last, or if none was made. -/
lemma Sound.removes {place : Location} {pipe : Fifo} (sound : s.Sound path mode) (lenient : refuses.Lenient)
    (told : refuses .find = none) (leads : s.tree.object false path = .ok (place, .fifo pipe))
    (own : s.made = [] ∨ s.made.head? = some pipe.stamp) :
    (s.owner.closeWithin refuses s.tree).tree = s.tree.erase place := by
  rw [← sound.path] at leads
  have number : s.owner.made = none ∨ s.owner.made = some pipe.inode := by
    refine own.imp sound.forgets fun last => ?_
    exact sound.latest _ last pipe (.inl ⟨place, FileTree.at?_of_object leads⟩) rfl
  have withdraws := s.owner.removeFifo_withdraws s.tree
  rw [Owner.closeWithin]
  simp only [Owner.removeFifoWithin_tree lenient, if_pos told]
  exact withdraws.found leads number

/-- In every tenancy that is reached, whatever others did to the tree and whatever was refused:
opening an open pipe fails and changes nothing; opening a closed one succeeds where there is room, nothing is
refused and a reader comes. Once it has succeeded, a new pipe stands where the path itself leads, with the
bits that were asked for, and nothing else has changed; once it has failed, the pipe is closed, a directory
at the path is as it was, and no pipe has a name that had none before. Closing changes nothing but pipes. It
removes the one made last if that is at the path, and any pipe there if none was made; closing again changes
nothing. -/
theorem footprint (reached : s.Reached path mode) (bits : mode ≤ 0o777) (lenient : refuses.Lenient)
    (arrival : Arrival) :
    let turn := s.owner.openFifoWithin refuses arrival s.tree
    let closed := s.owner.closeWithin refuses s.tree
    (s.owner.isOpen = true →
      turn = { owner := s.owner, tree := s.tree, failure := some (.alreadyOpen path) }) ∧
    (s.owner.isOpen = false → (∀ call, refuses call = none) → s.owner.HasRoom s.tree →
      arrival.refusal = none → turn.failure = none) ∧
    (turn.failure = none → ∃ place, s.tree.locate false path = .ok place ∧
      s.tree.at? place ≠ some .directory ∧
      let pipe : Fifo := ⟨s.tree.births, arrival.inode, mode⟩
      turn.owner.stream = some pipe ∧ turn.tree.object false path = .ok (place, .fifo pipe) ∧
        (∀ before, s.tree.Names before → before.stamp ≠ pipe.stamp) ∧
        (∀ other, other ≠ place → turn.tree.at? other = s.tree.at? other) ∧
        turn.tree.contents = s.tree.contents) ∧
    (s.owner.isOpen = false → turn.failure ≠ none →
      turn.owner.isOpen = false ∧ (s.tree.inspect path = .ok .directory → turn.tree = s.tree) ∧
        (refuses .find = none → ∀ pipe, turn.tree.Names pipe → s.tree.Names pipe)) ∧
    (∀ place e, (∀ pipe, e ≠ .fifo pipe) → s.tree.at? place = some e → closed.tree.at? place = some e) ∧
    closed.tree.contents = s.tree.contents ∧
    (refuses .find = none →
      (∀ place pipe, s.tree.object false path = .ok (place, .fifo pipe) →
        s.made = [] ∨ s.made.head? = some pipe.stamp → closed.tree = s.tree.erase place) ∧
      ∀ refuses' : Refusals, refuses'.Lenient →
        let again := closed.owner.closeWithin refuses' closed.tree
        again.owner = closed.owner ∧ again.tree = closed.tree) := by
  have sound := reached.sound
  have withdraws := s.owner.removeFifo_withdraws s.tree
  have left := s.owner.removeFifoWithin_tree lenient s.tree
  refine ⟨fun busy => ?_, fun idle obeyed space welcome => ?_, sound.opened bits lenient,
    sound.failed lenient, fun place e other stands => ?_, ?_, fun told => ⟨fun place pipe leads own => ?_, ?_⟩⟩
  · rw [Owner.openFifoWithin, if_pos busy, sound.path]
  · refine Owner.openFifoWithin_alive obeyed idle ?_ space welcome
    rw [sound.mode]
    exact (bits_of_le bits).2
  · rw [Owner.closeWithin]
    simp only [left]
    split
    · exact withdraws.spares other stands
    · exact stands
  · rw [Owner.closeWithin]
    simp only [left]
    split
    · exact withdraws.contents
    · rfl
  · exact sound.removes lenient told leads own
  · intro refuses' lenient'
    refine ⟨rfl, ?_⟩
    simp only [Owner.closeWithin, left, if_pos told, Owner.removeFifoWithin_tree lenient']
    split
    · exact withdraws.again rfl rfl
    · rfl

/-- Another process has put a link to one of its files where the pipe is to be. -/
def linked : Tenancy where
  owner := .start "f.fifo" 0o640
  tree :=
    { entries := [(["f.fifo"], .link (Route.ofPath "kept")), (["kept"], .file 0)]
      contents := [(0, [1, 2, 3])]
      births := 1
      umask := 0o777 }
  made := []

/-- The scene with the link is reached. -/
lemma linked_reached : linked.Reached "f.fifo" 0o640 := by
  have nothing : ∀ pipe, ¬linked.tree.Names pipe := by
    rintro pipe ⟨place, stands⟩
    rw [FileTree.at?] at stands
    split at stands
    · cases stands
    · obtain ⟨⟨other, e⟩, found, rfl⟩ := Option.map_eq_some_iff.1 stands
      have mem := List.mem_of_find?_eq_some found
      simp [linked] at mem
  have before : (Tenancy.start "f.fifo" 0o640 {}).Reached "f.fifo" 0o640 :=
    .start fun pipe named => absurd named (FileTree.not_names_empty pipe)
  exact before.step (.others (t := linked.tree) ⟨Nat.zero_le _, fun pipe named => absurd named (nothing pipe),
    fun pipe named => absurd named (nothing pipe)⟩)

/-- The link makes way for the pipe, which has the bits that were asked for though new objects get none, and
the file behind it stays. -/
theorem footprint_linked :
    let turn := linked.owner.openFifoWithin granted { inode := 7 } linked.tree
    linked.Reached "f.fifo" 0o640 ∧ 0o640 ≤ 0o777 ∧ granted.Lenient ∧ turn.failure = none ∧
      turn.tree.at? ["f.fifo"] = some (.fifo ⟨1, 7, 0o640⟩) ∧ turn.tree.at? ["kept"] = some (.file 0) := by
  intro turn
  have claim := footprint linked_reached (by decide) Refusals.lenient_granted { inode := 7 }
  have space : linked.owner.HasRoom linked.tree :=
    ⟨linked.tree.erase ["f.fifo"], ["f.fifo"], by decide, by decide⟩
  have alive : turn.failure = none := claim.2.1 rfl (fun _ => rfl) space rfl
  obtain ⟨place, located, -, -, leads, -, others, -⟩ := claim.2.2.1 alive
  obtain rfl : ["f.fifo"] = place := Except.ok.inj located
  exact ⟨linked_reached, by decide, Refusals.lenient_granted, alive, FileTree.at?_of_object leads,
    others ["kept"] (by decide)⟩

/-- The first pipe of an owner, which is open. -/
def opened : Tenancy := (Tenancy.start "f.fifo" Owner.standardMode {}).opening granted { inode := 0 }

/-- The scene with the open pipe is reached. -/
lemma opened_reached : opened.Reached "f.fifo" Owner.standardMode :=
  .step (.start fun pipe named => absurd named (FileTree.not_names_empty pipe))
    (.opens _ Refusals.lenient_granted)

/-- It is not told what stands at the path when the pipe is to be removed. -/
def blind : Refusals
  | .find => some (.bare .inputOutputError)
  | _ => none

/-- Opening may fail and leave a pipe open, namely one that was open. Closing may leave the pipe made last at
its path, namely if it is not told that it is there. -/
theorem footprint_exceptions :
    (¬∀ (path : String) (mode : Nat) (s : Tenancy) (refuses : Refusals) (arrival : Arrival),
      s.Reached path mode → mode ≤ 0o777 → refuses.Lenient →
        (s.owner.openFifoWithin refuses arrival s.tree).failure ≠ none →
          (s.owner.openFifoWithin refuses arrival s.tree).owner.isOpen = false) ∧
    ¬∀ (path : String) (mode : Nat) (s : Tenancy) (refuses : Refusals) (place : Location) (pipe : Fifo),
      s.Reached path mode → mode ≤ 0o777 → refuses.Lenient →
        s.tree.object false path = .ok (place, .fifo pipe) → s.made.head? = some pipe.stamp →
          (s.owner.closeWithin refuses s.tree).tree = s.tree.erase place := by
  constructor
  · intro closed
    have idle := closed _ _ opened granted { inode := 1 } opened_reached (by decide)
      Refusals.lenient_granted nofun
    cases idle
  · intro removes
    have gone := removes _ _ opened blind ["f.fifo"] ⟨0, 0, Owner.standardMode⟩ opened_reached (by decide)
      ⟨rfl, rfl, rfl, rfl⟩ rfl rfl
    exact absurd gone (by decide)

end Footprint

end Tenancy

end PlanarPipe
