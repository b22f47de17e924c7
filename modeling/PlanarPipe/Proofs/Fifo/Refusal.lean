import PlanarPipe.Proofs.Fifo.Opening

/-!
# Opening and closing where calls are refused

What an owner does to the tree where the system may refuse to tell what stands at the path, to make the
pipe and to let a reader in, but not to remove names and to set permission bits (`Refusals.Lenient`).
`Owner.Clears` says what making room comes to, `Owner.Makes` what a new pipe changes: the tree at one
location, which is where the path itself leads, be it to a link. All that opening can come to is listed in
`Owner.Tries`.
-/

namespace PlanarPipe

open FileTree

/-- Names are removed and permission bits are set whenever an owner asks for it. -/
structure Refusals.Lenient (refuses : Refusals) : Prop where
  clear : refuses .clear = none
  setMode : refuses .setMode = none
  undo : refuses .undo = none
  remove : refuses .remove = none

/-- A system that refuses nothing is lenient. -/
lemma Refusals.lenient_granted : granted.Lenient := ⟨rfl, rfl, rfl, rfl⟩

/-- A call that is not refused is answered as the tree does. -/
lemma Refusals.answer_of_none {refuses : Refusals} {α : Type} {call : PathCall} (asked : refuses call = none)
    (answer : Except IoError α) : refuses.answer call answer = answer := by
  rw [Refusals.answer, asked]

/-- What is told is what is so. -/
lemma answer_ok {refuses : Refusals} {α : Type} {call : PathCall} {answer : Except IoError α} {told : α}
    (asked : refuses.answer call answer = .ok told) : answer = .ok told := by
  rw [Refusals.answer] at asked
  split at asked
  · cases asked
  · exact asked

namespace Owner

variable {o : Owner} {t t' room : FileTree} {refuses : Refusals} {number : Nat} {place : Location}

/-- The tree in which an owner makes its pipe. -/
inductive Clears (o : Owner) (t : FileTree) : FileTree → Prop where
  | kept :
    Clears o t t
  /-- What the path itself led to is removed, unless it is a directory. -/
  | removed {place : Location} {e : Entry} :
    t.object false o.path = .ok (place, e) →
    e ≠ .directory →
    Clears o t (t.erase place)

/-- The pipe that an owner makes in a tree, with all the permission bits that it asks for. -/
def nextPipe (o : Owner) (number : Nat) (t : FileTree) : Fifo :=
  t.newPipe number (o.mode &&& permissionBits)

/-- A pipe is made, and the tree changes in nothing else. -/
structure Makes (o : Owner) (number : Nat) (t t' : FileTree) (place : Location) : Prop where
  /-- The path itself leads there, whatever stands there. -/
  located : t.locate false o.path = .ok place
  vacant : t.at? place ≠ some .directory
  leads : t'.object false o.path = .ok (place, .fifo (o.nextPipe number t))
  others : ∀ other, other ≠ place → t'.at? other = t.at? other
  births : t'.births = t.births + 1
  contents : t'.contents = t.contents

/-- The new pipe stands at its place. -/
lemma Makes.stands (makes : o.Makes number t t' place) : t'.at? place = some (.fifo (o.nextPipe number t)) :=
  at?_of_object makes.leads

/-- The pipes that have a name are the new one and those that had one before. -/
lemma Makes.names {pipe : Fifo} (makes : o.Makes number t t' place) (named : t'.Names pipe) :
    pipe = o.nextPipe number t ∨ t.Names pipe := by
  obtain ⟨other, stands⟩ := named
  by_cases here : other = place
  · rw [here, makes.stands] at stands
    exact .inl (Entry.fifo.inj (Option.some.inj stands)).symm
  · rw [makes.others other here] at stands
    exact .inr ⟨other, stands⟩

/-- One stamp is given. -/
lemma Makes.born (makes : o.Makes number t t' place) (made : List Nat) :
    List.range' t.births (t'.births - t.births) ++ made = t.births :: made := by
  rw [makes.births, Nat.add_sub_cancel_left]
  rfl

/-- Where the new pipe is taken away again no pipe has a name that had none before. -/
lemma Makes.names_erase {pipe : Fifo} (makes : o.Makes number t t' place)
    (named : (t'.erase place).Names pipe) : t.Names pipe := by
  obtain ⟨other, stands⟩ := named
  rw [at?_erase] at stands
  split at stands
  · cases stands
  · split at stands
    · cases stands
    case isFalse elsewhere =>
      rw [makes.others other elsewhere] at stands
      exact ⟨other, stands⟩

/-- Clearing the path puts nothing into the tree, whatever is refused. -/
lemma Clears.thins (clears : o.Clears t room) : t.Thins room := by
  cases clears with
  | kept => exact .refl t
  | removed => exact t.thins_erase _

/-- Where the path is cleared the tree has changed in nothing else. -/
lemma clearWithin_clears (lenient : refuses.Lenient) (cleared : (o.clearWithin refuses t).2 = .ok room) :
    o.Clears t room := by
  rw [clearWithin, refuses.answer_of_none lenient.clear] at cleared
  cases looked : refuses.answer .look (t.inspect o.path) with
  | error cause =>
    rw [looked] at cleared
    simp only at cleared
    split at cleared
    · cases cleared
      exact .kept
    · cases cleared
  | ok e =>
    rw [looked] at cleared
    obtain ⟨place, leads⟩ := object_of_inspect (answer_ok looked)
    -- a directory is not removed, and everything else is removed alike
    by_cases directory : e = .directory
    · subst directory
      cases cleared
    · have gone : t.unlink o.path = .ok (t.erase place) := by
        rw [unlink, leads]
        split
        case h_1 => contradiction
        case h_2 same =>
          cases same
          exact absurd rfl directory
        case h_3 same =>
          cases same
          rfl
      have result : room = t.erase place := by
        cases e with
        | directory => exact absurd rfl directory
        | file | link | fifo =>
          simp only [gone] at cleared
          exact (Except.ok.inj cleared).symm
      rw [result]
      exact .removed leads directory

/-- Only where the path itself leads can a pipe be made once room was made. -/
lemma Clears.makes (clears : o.Clears t room) (free : room.vacancy o.path = .ok place) (number : Nat) :
    o.Makes number t (room.stamped.2.put place (.fifo (o.nextPipe number t))) place := by
  have leads := object_put_vacancy ((vacancy_stamped room o.path).trans free) false (o.nextPipe number t)
  have nothing := vacancy_free free
  -- the way there is one that there was in the room, which has no other ways than the tree
  have cleared : room.locate false o.path = .ok place :=
    locate_ways (put_waysIn room.stamped.2 place _) (object_eq_ok_iff.1 leads).1
  have others : ∀ other, other ≠ place →
      (room.stamped.2.put place (.fifo (o.nextPipe number t))).at? other = room.at? other := by
    intro other elsewhere
    rw [at?_put, if_neg elsewhere]
    split
    case isTrue root => exact (if_pos root).symm
    case isFalse => rfl
  cases clears with
  | kept =>
    exact ⟨cleared, by rw [nothing]; exact nofun, leads, others, rfl, rfl⟩
  | @removed gone e there other =>
    obtain ⟨located, stood⟩ := object_eq_ok_iff.1 there
    have same : gone = place :=
      Except.ok.inj (located.symm.trans (locate_ways (waysIn_erase t gone) cleared))
    subst same
    refine ⟨located, ?_, leads, fun place elsewhere => ?_, rfl, rfl⟩
    · rw [stood]
      exact fun directory => other (Option.some.inj directory)
    · rw [others place elsewhere, at?_erase, if_neg elsewhere]
      split
      case isTrue root => exact (if_pos root).symm
      case isFalse => rfl

/-- The pipe that was made gets its bits, and then its number is told or not. -/
lemma Clears.claim (clears : o.Clears t room) (lenient : refuses.Lenient)
    (free : room.vacancy o.path = .ok place) (number bits : Nat) :
    o.claimWithin refuses (room.stamped.2.put place (.fifo (room.newPipe number bits))) =
      (refuses.answer .identify (.ok (o.nextPipe number t)),
        room.stamped.2.put place (.fifo (o.nextPipe number t))) := by
  have same : room.births = t.births := clears.thins.births
  have pipe : room.newPipe number bits = t.newPipe number bits := by rw [newPipe, newPipe, same]
  have leads := object_put_vacancy ((vacancy_stamped room o.path).trans free)
  have set : (room.stamped.2.put place (.fifo (room.newPipe number bits))).setMode o.path o.mode =
      .ok (room.stamped.2.put place (.fifo (o.nextPipe number t))) := by
    rw [setMode, leads, pipe]
    simp only [put_put]
    rfl
  rw [claimWithin, refuses.answer_of_none lenient.setMode, set]
  simp only [inspect_of_object (leads false (o.nextPipe number t)), Refusals.answer]
  cases refuses .identify <;> rfl

/-- What comes of making a pipe in the room for it. -/
lemma makeWithin_makes (lenient : refuses.Lenient) (clears : o.Clears t room) (number : Nat) :
    (∃ cause, o.makeWithin refuses number room = (.error cause, room)) ∨
      ∃ place t', o.Makes number t t' place ∧
        ((∃ cause, o.makeWithin refuses number room = (.error cause, t'.erase place)) ∨
          o.makeWithin refuses number room = (.ok (o.nextPipe number t), t')) := by
  rw [makeWithin]
  cases asked : refuses.answer .make (room.makeFifo o.path o.mode number) with
  | error cause => exact .inl ⟨cause, rfl⟩
  | ok made =>
    obtain ⟨place, bits, free, rfl⟩ := makeFifo_vacancy (answer_ok asked)
    have makes := clears.makes free number
    refine .inr ⟨place, _, makes, ?_⟩
    simp only [clears.claim lenient free]
    cases told : refuses .identify with
    | none =>
      right
      rw [refuses.answer_of_none told]
    | some cause =>
      left
      have gone : (room.stamped.2.put place (.fifo (o.nextPipe number t))).unlink o.path =
          .ok ((room.stamped.2.put place (.fifo (o.nextPipe number t))).erase place) := by
        rw [unlink, makes.leads]
      refine ⟨cause, ?_⟩
      simp only [Refusals.answer, told, lenient.undo, gone]

/-- Once what stands at the path is removed, the path leads to a location for a pipe. -/
def HasRoom (o : Owner) (t : FileTree) : Prop :=
  ∃ room place, (o.clear t).2 = .ok room ∧ room.vacancy o.path = .ok place

/-- Where there is room for a pipe, nothing is refused and a reader comes, the pipe is opened. -/
lemma openFifoWithin_alive {arrival : Arrival} (obeyed : ∀ call, refuses call = none)
    (idle : o.isOpen = false) (plain : o.mode &&& foreignKinds = 0) (space : o.HasRoom t)
    (welcome : arrival.refusal = none) : (o.openFifoWithin refuses arrival t).failure = none := by
  obtain rfl : refuses = granted := funext obeyed
  obtain ⟨room, place, cleared, free⟩ := space
  have clears := clearWithin_clears Refusals.lenient_granted cleared
  have made : ∃ bits, room.makeFifo o.path o.mode arrival.inode =
      .ok (room.stamped.2.put place (.fifo (room.newPipe arrival.inode bits))) := by
    rw [makeFifo, if_neg (not_not.2 plain), free]
    exact ⟨_, rfl⟩
  obtain ⟨bits, made⟩ := made
  rw [clear] at cleared
  rw [openFifoWithin, if_neg (by rw [idle]; exact Bool.false_ne_true)]
  simp only [cleared, makeWithin, answer_granted, made, clears.claim Refusals.lenient_granted free, welcome]

/-- Where it is told what stands at the path an owner removes its pipe, and else it changes nothing. -/
lemma removeFifoWithin_tree (lenient : refuses.Lenient) (o : Owner) (t : FileTree) :
    (o.removeFifoWithin refuses t).2 = if refuses .find = none then (o.removeFifo t).2 else t := by
  split
  case isTrue told =>
    rw [removeFifo, removeFifoWithin, removeFifoWithin, refuses.answer_of_none told,
      refuses.answer_of_none lenient.remove]
    rfl
  case isFalse refused =>
    obtain ⟨cause, refused⟩ := Option.ne_none_iff_exists'.1 refused
    rw [removeFifoWithin, Refusals.answer, refused]

/-- An owner that has removed its pipe, or has found none, finds nothing to remove the next time. -/
lemma Withdraws.again {o' : Owner} (withdraws : o.Withdraws t t') (path : o'.path = o.path)
    (made : o'.made = o.made) : (o'.removeFifo t').2 = t' := by
  have next := o'.removeFifo_withdraws t'
  generalize (o'.removeFifo t').2 = t'' at next ⊢
  cases next with
  | kept => rfl
  | @removed place pipe leads number =>
    rw [path] at leads
    rw [made] at number
    cases withdraws with
    | kept other => exact absurd number (not_own_of_kept (inspect_of_object leads) other)
    | removed gone =>
      have nothing := inspect_erase gone
      rw [inspect_of_object leads] at nothing
      cases nothing

/-- Nothing but a pipe is removed. -/
lemma Withdraws.spares {e : Entry} (withdraws : o.Withdraws t t') (other : ∀ pipe, e ≠ .fifo pipe)
    (stands : t.at? place = some e) : t'.at? place = some e := by
  cases withdraws with
  | kept => exact stands
  | @removed gone pipe leads =>
    have elsewhere : place ≠ gone := by
      rintro rfl
      rw [at?_of_object leads] at stands
      exact other pipe (Option.some.inj stands).symm
    rw [at?_erase, if_neg elsewhere, stands]
    split
    case isTrue root =>
      rw [at?, if_pos root] at stands
      exact stands
    case isFalse => rfl

/-- Withdrawing a pipe leaves the contents of all files alone. -/
lemma Withdraws.contents (withdraws : o.Withdraws t t') : t'.contents = t.contents := by
  cases withdraws <;> rfl

/-- What comes of opening a pipe that is given the number `number`: the owner and the tree afterwards, and
the failure if there is one. -/
inductive Tries (o : Owner) (refuses : Refusals) (number : Nat) (t : FileTree) :
    Owner → FileTree → Option FifoError → Prop where
  /-- The owner has a pipe open. -/
  | busy :
    o.isOpen = true →
    Tries o refuses number t o t (some (.alreadyOpen o.path))
  /-- No pipe can be made. -/
  | unmade {room : FileTree} {cause : IoError} :
    o.isOpen = false →
    o.Clears t room →
    Tries o refuses number t o room (some (.notMade o.path cause))
  /-- A pipe is made, and taken away again because its number is not told. -/
  | unclaimed {t' : FileTree} {place : Location} {cause : IoError} :
    o.isOpen = false →
    o.Makes number t t' place →
    Tries o refuses number t o (t'.erase place) (some (.notMade o.path cause))
  /-- A pipe is made, and a reader comes. -/
  | joined {t' : FileTree} {place : Location} :
    o.isOpen = false →
    o.Makes number t t' place →
    Tries o refuses number t { o with stream := some (o.nextPipe number t), made := some number } t' none
  /-- A pipe is made, and removed again because no reader comes. -/
  | abandoned {t' : FileTree} {place : Location} {cause : IoError} :
    o.isOpen = false →
    o.Makes number t t' place →
    Tries o refuses number t { o with made := some number } (t'.erase place)
      (some (.notOpened o.path cause))
  /-- No reader comes, and the pipe stays because it is not told that it is there. -/
  | stranded {t' : FileTree} {place : Location} {cause : IoError} :
    o.isOpen = false →
    o.Makes number t t' place →
    refuses .find ≠ none →
    Tries o refuses number t { o with made := some number } t' (some (.notOpened o.path cause))

/-- Opening a pipe comes to one of the listed ends, whatever is refused. -/
lemma openFifoWithin_tries (lenient : refuses.Lenient) (o : Owner) (arrival : Arrival) (t : FileTree) :
    let turn := o.openFifoWithin refuses arrival t
    o.Tries refuses arrival.inode t turn.owner turn.tree turn.failure := by
  rw [openFifoWithin]
  cases busy : o.isOpen with
  | true => exact .busy busy
  | false =>
    simp only [Bool.false_eq_true, if_false]
    cases cleared : (o.clearWithin refuses t).2 with
    | error cause => exact .unmade busy .kept
    | ok room =>
      have clears := clearWithin_clears lenient cleared
      simp only
      rcases o.makeWithin_makes lenient clears arrival.inode with
        ⟨cause, given⟩ | ⟨place, t', makes, ⟨cause, given⟩ | given⟩
      · rw [given]
        exact .unmade busy clears
      · rw [given]
        exact .unclaimed busy makes
      · rw [given]
        simp only
        cases arrival.refusal with
        | none => exact .joined busy makes
        | some cause =>
          simp only [removeFifoWithin_tree lenient]
          split
          case isTrue =>
            -- the pipe that was made is the one that the owner looks for now
            let pipe := o.nextPipe arrival.inode t
            have withdraws := ({ o with made := some pipe.inode } : Owner).removeFifo_withdraws t'
            rw [withdraws.own makes.leads rfl]
            exact .abandoned busy makes
          case isFalse refused => exact .stranded busy makes refused

/-- An owner that has opened its pipe has made it, and remembers it. -/
lemma openFifoWithin_makes {arrival : Arrival} (lenient : refuses.Lenient)
    (alive : (o.openFifoWithin refuses arrival t).failure = none) :
    let turn := o.openFifoWithin refuses arrival t
    turn.owner = { o with stream := some (o.nextPipe arrival.inode t), made := some arrival.inode } ∧
      ∃ place, o.Makes arrival.inode t turn.tree place := by
  have tries := openFifoWithin_tries lenient o arrival t
  generalize o.openFifoWithin refuses arrival t = turn at tries alive ⊢
  obtain ⟨owner, tree, events, failure⟩ := turn
  simp only at tries alive ⊢
  subst alive
  cases tries with
  | joined _ makes => exact ⟨rfl, _, makes⟩

end Owner

end PlanarPipe
