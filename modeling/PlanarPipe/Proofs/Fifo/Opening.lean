import PlanarPipe.Fifo.Owner
import PlanarPipe.Proofs.Posix.Naming

/-!
# What an owner does to the tree

All that opening and closing a pipe can come to: closing removes a pipe at the path or leaves the tree as
it is (`Owner.Withdraws`), and opening makes room, and then makes one pipe, which is what the path leads
to afterwards, or none (`Owner.Opens`).
-/

namespace PlanarPipe.Owner

variable {o : Owner} {t : FileTree}

/-- What becomes of the tree when an owner removes its pipe. -/
inductive Withdraws (o : Owner) (t : FileTree) : FileTree → Prop where
  /-- There is no pipe at the path, or one of another number. -/
  | kept :
    (∀ pipe, t.inspect o.path = .ok (.fifo pipe) → ∃ number, o.made = some number ∧ number ≠ pipe.inode) →
    Withdraws o t t
  /-- The pipe at the path has the number that the owner remembers, or it remembers none. -/
  | removed {place pipe} :
    t.object false o.path = .ok (place, .fifo pipe) →
    (o.made = none ∨ o.made = some pipe.inode) →
    Withdraws o t (t.erase place)

/-- What comes of opening a pipe that is given the number `number`. -/
inductive Opens (o : Owner) (number : Nat) (t : FileTree) : Owner → FileTree → Prop where
  /-- The owner has a pipe open, or there is no room for one. -/
  | refused :
    Opens o number t o t
  /-- There is room, but a pipe cannot be made. -/
  | cleared {room} :
    o.isOpen = false →
    (o.clear t).2 = .ok room →
    Opens o number t o room
  /-- A pipe is made, and a reader comes. -/
  | joined {room place mode} :
    o.isOpen = false →
    (o.clear t).2 = .ok room →
    Opens o number t { o with stream := some (room.newPipe number mode), made := some number }
      (room.stamped.2.put place (.fifo (room.newPipe number mode)))
  /-- A pipe is made, and removed again because no reader comes. -/
  | abandoned {room place mode} :
    o.isOpen = false →
    (o.clear t).2 = .ok room →
    Opens o number t { o with made := some number }
      ((room.stamped.2.put place (.fifo (room.newPipe number mode))).erase place)

/-- An owner whose pipe is not open has no stream. -/
lemma stream_of_idle (idle : o.isOpen = false) : o.stream = none := by
  rwa [isOpen, Option.isSome_eq_false_iff, Option.isNone_iff_eq_none] at idle

/-- A number that is remembered is the number to look for, and without one any will do. -/
lemma all_made_iff {number : Nat} : o.made.all (· == number) = true ↔ o.made = none ∨ o.made = some number := by
  cases o.made with
  | none => simp
  | some made => simp

/-- Removing a pipe comes to one of the two ends. -/
lemma removeFifo_withdraws (o : Owner) (t : FileTree) : o.Withdraws t (o.removeFifo t).2 := by
  simp only [removeFifo, removeFifoWithin, answer_granted]
  split
  case h_1 pipe there =>
    obtain ⟨place, leads⟩ := FileTree.object_of_inspect there
    split
    case isTrue own =>
      have gone : t.unlink o.path = .ok (t.erase place) := by rw [FileTree.unlink, leads]
      rw [gone]
      exact .removed leads (all_made_iff.1 own)
    case isFalse other =>
      refine .kept fun pipe' there' => ?_
      obtain rfl : pipe = pipe' := Entry.fifo.inj (Except.ok.inj (there.symm.trans there'))
      rw [all_made_iff, not_or] at other
      obtain ⟨number, made⟩ := Option.ne_none_iff_exists'.1 other.1
      exact ⟨number, made, fun same => other.2 (same ▸ made)⟩
  case h_2 none => exact .kept fun pipe there => absurd there (none pipe)

/-- A pipe that is left alone is one of another number than the one to look for. -/
lemma not_own_of_kept {pipe : Fifo} (there : t.inspect o.path = .ok (.fifo pipe))
    (other : ∀ pipe, t.inspect o.path = .ok (.fifo pipe) → ∃ number, o.made = some number ∧ number ≠ pipe.inode) :
    ¬(o.made = none ∨ o.made = some pipe.inode) := by
  obtain ⟨number, made, differ⟩ := other pipe there
  rw [made]
  rintro (none | same)
  · cases none
  · exact differ (Option.some.inj same)

/-- A pipe with the number that the owner remembers is removed, and any pipe if it remembers none. -/
lemma Withdraws.found {t' : FileTree} {place : Location} {pipe : Fifo} (withdraws : o.Withdraws t t')
    (leads : t.object false o.path = .ok (place, .fifo pipe))
    (own : o.made = none ∨ o.made = some pipe.inode) : t' = t.erase place := by
  cases withdraws with
  | kept other => exact absurd own (not_own_of_kept (FileTree.inspect_of_object leads) other)
  | removed found =>
    rw [leads] at found
    cases found
    rfl

/-- The own pipe is taken away from where the path leads. -/
lemma Withdraws.own {t' : FileTree} {place : Location} {pipe : Fifo} (withdraws : o.Withdraws t t')
    (leads : t.object false o.path = .ok (place, .fifo pipe)) (own : o.made = some pipe.inode) :
    t' = t.erase place := withdraws.found leads (.inr own)

/-- Withdrawing a pipe puts nothing into the tree. -/
lemma Withdraws.thins {t' : FileTree} (withdraws : o.Withdraws t t') : t.Thins t' := by
  cases withdraws with
  | kept => exact .refl t
  | removed => exact t.thins_erase _

/-- Clearing the path puts nothing into the tree. -/
lemma clear_thins {room : FileTree} (cleared : (o.clear t).2 = .ok room) : t.Thins room := by
  simp only [clear, clearWithin, answer_granted] at cleared
  split at cleared
  · cases cleared
  · obtain ⟨place, rfl⟩ := FileTree.unlink_cases cleared
    exact t.thins_erase place
  · simp only at cleared
    split at cleared
    · cases cleared
      exact .refl t
    · cases cleared

/-- The pipe that is made is the one at the path, and where none is made nothing changes. -/
lemma make_cases (o : Owner) (number : Nat) (room : FileTree) :
    (∃ cause, o.makeWithin granted number room = (.error cause, room)) ∨
      ∃ place mode t, o.makeWithin granted number room = (.ok (room.newPipe number mode), t) ∧
        t = room.stamped.2.put place (.fifo (room.newPipe number mode)) ∧
        t.object false o.path = .ok (place, .fifo (room.newPipe number mode)) := by
  simp only [makeWithin, claimWithin, answer_granted]
  cases given : room.makeFifo o.path o.mode number with
  | error cause => exact .inl ⟨cause, rfl⟩
  | ok t =>
    obtain ⟨place, bits, rfl, leads⟩ := FileTree.makeFifo_cases given
    simp only [FileTree.setMode, leads, FileTree.put_put, FileTree.inspect, Except.map]
    exact .inr ⟨place, _, _, rfl, rfl, leads _ _⟩

/-- Opening a pipe comes to one of the listed ends. -/
lemma openFifo_opens (o : Owner) (arrival : Arrival) (t : FileTree) :
    o.Opens arrival.inode t (o.openFifo arrival t).owner (o.openFifo arrival t).tree := by
  rw [openFifo, openFifoWithin]
  cases busy : o.isOpen with
  | true => exact .refused
  | false =>
    simp only [Bool.false_eq_true, if_false]
    cases cleared : (o.clearWithin granted t).2 with
    | error cause => exact .refused
    | ok room =>
      simp only
      rcases o.make_cases arrival.inode room with ⟨cause, given⟩ | ⟨place, mode, _, given, rfl, leads⟩
      · rw [given]
        exact .cleared busy cleared
      · rw [given]
        simp only
        cases arrival.refusal with
        | none => exact .joined busy cleared
        | some cause =>
          -- the pipe that was made is the one that the owner looks for now
          have withdraws := ({ o with made := some arrival.inode } : Owner).removeFifo_withdraws
            (room.stamped.2.put place (.fifo (room.newPipe arrival.inode mode)))
          have gone := withdraws.own leads rfl
          exact gone ▸ .abandoned busy cleared

end PlanarPipe.Owner
