import PlanarPipe.Proofs.Command.Sending
import PlanarPipe.Proofs.Fifo.Refusal

/-!
# What the command tells of a stream

The command keeps an account of its own of what it sent, the number of the next frame and the last time
stamp, beside that of the encoder, and takes its exit code from the first push that fails. Main statement:
whatever the pipe answers, the summary that is printed and the exit code are those of the answers, unless the
output is closed, and the pipe is gone afterwards (`StreamTask.Valid.run_accounts`).
-/

namespace PlanarPipe

/-- An owner that has opened a pipe remembers it, and the path leads to it. -/
lemma Owner.openFifo_joined {path : String} {mode : Nat} {arrival : Arrival} {t : FileTree}
    (opens : ((Owner.start path mode).openFifo arrival t).failure = none) :
    let opened := (Owner.start path mode).openFifo arrival t
    opened.owner.path = path ∧ opened.owner.made = some arrival.inode ∧
      ∃ pipe, opened.tree.inspect path = .ok (.fifo pipe) ∧ pipe.inode = arrival.inode := by
  intro opened
  obtain ⟨owner, place, makes⟩ := Owner.openFifoWithin_makes Refusals.lenient_granted opens
  exact ⟨congrArg Owner.path owner, congrArg Owner.made owner, _, FileTree.inspect_of_object makes.leads, rfl⟩

/-- A session that is closed removes its pipe if that is still at its path, and is then closed in vain. -/
lemma Session.close_close {s : Session} {t : FileTree} {pipe : Fifo}
    (there : t.inspect s.owner.path = .ok (.fifo pipe)) (own : s.owner.made = some pipe.inode) :
    let closed := s.close t
    (closed.session.close closed.tree).tree.inspect s.owner.path = .error (.system .noEntry) := by
  intro closed
  obtain ⟨place, leads⟩ := FileTree.object_of_inspect there
  have withdraws := s.owner.removeFifo_withdraws t
  have again : (closed.session.close closed.tree).tree = (s.owner.removeFifo t).2 :=
    @Owner.Withdraws.again _ _ _ { s.owner with stream := none } withdraws rfl rfl
  rw [again, withdraws.own leads own, FileTree.inspect_erase leads]

/-- Only a push that failed makes the command fail, with one of two codes. -/
lemma Run.code_eq_iff {r : Run} {attempts : List Attempt} (whole : r.crash = none)
    (failed : r.failure = (attempts.findSome? Attempt.failure).map (Exit.ofEncodeError "push failed")) :
    r.code = Exit.success ↔ ∀ a ∈ attempts, a.failure = none := by
  rw [Run.code, whole, failed, ← List.findSome?_eq_none_iff]
  cases attempts.findSome? Attempt.failure with
  | none => exact iff_of_true rfl rfl
  | some cause =>
    refine iff_of_false ?_ (Option.some_ne_none cause)
    change ¬(if cause.isReaderGone then Exit.failure else Exit.transport) = Exit.success
    split <;> decide

/-- The call that was made last tells by its answer with which of the two codes. -/
lemma Run.code_of_failed {r : Run} {e : Encoder} {frames : List Frame} (outlet : Outlet)
    (held : ∀ f ∈ frames, f.Addressable) (going : e.stopped = false) (whole : r.crash = none) :
    let attempts := e.pushAll Encoder.plenty outlet frames
    r.calls = attempts.flatMap Attempt.calls →
    r.failure = (attempts.findSome? Attempt.failure).map (Exit.ofEncodeError "push failed") →
    r.code ≠ Exit.success →
    ∃ last, r.calls.getLast? = some last ∧ r.code = if last.readerGone then Exit.failure else Exit.transport := by
  intro attempts calls failure failed
  obtain ⟨cause, first⟩ : ∃ cause, attempts.findSome? Attempt.failure = some cause := by
    rw [← Option.ne_none_iff_exists', ne_eq, List.findSome?_eq_none_iff]
    exact mt (Run.code_eq_iff whole failure).2 failed
  obtain ⟨last, final, told⟩ := Encoder.pushAll_getLast_call outlet held going first
  refine ⟨last, (congrArg List.getLast? calls).trans final, ?_⟩
  rw [first] at failure
  rw [Run.code, whole, failure, ← told]
  rfl

namespace StreamTask.Valid

variable {task : StreamTask} (valid : task.Valid)

/-- The answers to the calls for so many frames. -/
def history (outlet : Outlet) (count : Nat) : List Dealing :=
  dealings .unset ((valid.framesFrom 0 count).zip (valid.attempts outlet count))

/-- How many frames were accepted in full. -/
def accepted (outlet : Outlet) (count : Nat) : Nat := (valid.history outlet count).countP Dealing.completes

/-- What a summary is to say, as far as it can be told from the answers of the pipe: how many frames were
accepted in full, the time stamp of the last of them as it stands in the stream, the bytes of all parts that
were accepted in full, and whether a push failed. -/
def account (outlet : Outlet) (count : Nat) : Summary where
  path := task.path
  frames := valid.accepted outlet count
  bytes := acceptedBytes (valid.history outlet count)
  lastStamp := ((valid.framesFrom 0 count).take (valid.accepted outlet count)).getLast?.map
    fun f => (f.picture valid.timing).stamp
  stopped := (valid.attempts outlet count).any fun a => a.failure.isSome

include valid

/-- The frames that were accepted are those whose push did not fail. -/
lemma accepted_eq (outlet : Outlet) (count : Nat) :
    valid.accepted outlet count = (valid.attempts outlet count).countP fun a => a.failure.isNone :=
  (Encoder.start valid.timing).pushAll_completes Encoder.plenty outlet (valid.framesFrom_addressable 0 count)

/-- No more frames were accepted than pushed. -/
lemma accepted_le (outlet : Outlet) (count : Nat) : valid.accepted outlet count ≤ count := by
  have most := @List.countP_le_length _ (fun a : Attempt => a.failure.isNone) (valid.attempts outlet count)
  rwa [← accepted_eq, length_attempts] at most

/-- All frames were accepted exactly if no push failed. -/
lemma accepted_eq_count_iff (outlet : Outlet) (count : Nat) :
    valid.accepted outlet count = count ↔ ∀ a ∈ valid.attempts outlet count, a.failure = none := by
  have all : (valid.attempts outlet count).countP (fun a => a.failure.isNone) = _ ↔ _ := List.countP_eq_length
  rw [length_attempts, ← accepted_eq] at all
  simp only [all, Option.isNone_iff_eq_none]

/-- The account that the command keeps is that of the answers. -/
lemma summary_eq {outlet : Outlet} {count : Nat} {p : Progress} {s : Sending}
    (sends : Sends (valid.framesFrom 0 count) p (.start valid.timing) (valid.attempts outlet count) s)
    (fresh : p.lastStamp = none) : task.summary s.progress = valid.account outlet count := by
  have held := valid.framesFrom_addressable 0 count
  have accounts := (Encoder.start valid.timing).pushAll_accounts Encoder.plenty outlet held
  change Accounts _ (valid.history outlet count) (valid.attempts outlet count) _ at accounts
  have frames : ((Encoder.start valid.timing).after (valid.attempts outlet count)).frames = _ :=
    accounts.frames.trans (Nat.zero_add _)
  have bytes : ((Encoder.start valid.timing).after (valid.attempts outlet count)).bytes = _ :=
    accounts.bytes.trans (Nat.zero_add _)
  have stopped : ((Encoder.start valid.timing).after (valid.attempts outlet count)).stopped = _ :=
    Encoder.stopped_after Encoder.plenty outlet held rfl
  have stamp := sends.lastStamp
  rw [fresh, Option.or_none, ← accepted_eq] at stamp
  rw [← accepted_eq] at frames
  rw [StreamTask.summary, Session.isStopped, sends.session, stamp, Option.elim_some, Option.elim_some,
    Option.any_some, frames, bytes, stopped]
  rfl

/-- A command that was not interrupted has sent all frames, or one of them could not be sent. -/
lemma completed {arrival : Arrival} {outlet : Outlet} {patience : Nat} {t : FileTree} {format : Format}
    {output : Output} (opens : ((Owner.start task.path Owner.standardMode).openFifo arrival t).failure = none)
    (uninterrupted : ∀ more, patience ≤ more →
      task.run format output arrival outlet more t = task.run format output arrival outlet patience t)
    (alive : ∀ a ∈ valid.attempts outlet (task.length patience), a.failure = none) :
    1 ≤ task.frames ∧ task.length patience = task.frames := by
  by_contra unfinished
  -- one more frame would have been sent if the user had been more patient
  have longer : task.length (patience + 1) = task.length patience + 1 := by
    simp only [StreamTask.length] at unfinished ⊢
    split at unfinished
    case isTrue endless => rw [if_pos endless, if_pos endless]
    case isFalse finite =>
      rw [if_neg finite, if_neg finite]
      omega
  have calls : ∀ patience, (task.run format output arrival outlet patience t).calls =
      (valid.attempts outlet (task.length patience)).flatMap Attempt.calls := by
    intro patience
    obtain ⟨sends, events, ended⟩ := valid.run_sends format output outlet patience opens
    rw [ended]
    exact (sends.conclude task format output _).1
  have next : valid.framesFrom 0 (task.length patience + 1) =
      valid.framesFrom 0 (task.length patience) ++ [valid.frame (task.length patience)] := by
    rw [framesFrom, List.range'_concat, List.map_append, Nat.one_mul, Nat.zero_add]
    rfl
  have more := Encoder.pushAll_concat outlet (valid.framesFrom_addressable 0 _)
    (valid.frame_addressable (task.length patience)) rfl alive
  have same := congrArg Run.calls (uninterrupted (patience + 1) (Nat.le_succ patience))
  rw [calls, calls, longer, attempts, next] at same
  rw [← next] at more same
  exact Nat.lt_irrefl _ (same ▸ more)

/-- Whatever the pipe answers, and where the user does not interrupt it, so that with more patience nothing
would have been different, the command makes the calls of one session. To an output that is open it prints a
summary that says what the answers say (`account`), and it succeeds exactly if all frames that it was to send, one
or more, were accepted in full; otherwise the call that was made last tells by its answer how the command fails. A
closed output breaks the command off, whatever was sent. The pipe is gone from its path in the end, whatever others
have done to the tree meanwhile, unless they have put something else in its place. -/
theorem run_accounts {arrival : Arrival} {outlet : Outlet} {patience : Nat} {t : FileTree} (format : Format)
    (output : Output) (opens : ((Owner.start task.path Owner.standardMode).openFifo arrival t).failure = none)
    (uninterrupted : ∀ more, patience ≤ more →
      task.run format output arrival outlet more t = task.run format output arrival outlet patience t) :
    let count := task.length patience
    let ended := task.run format output arrival outlet patience t
    ended.calls = (valid.attempts outlet count).flatMap Attempt.calls ∧
      (output = .healthy →
        (∃ text, (valid.account outlet count).Tells format text ∧ ended.printed = (Printout.text text).toBytes) ∧
        (ended.code = Exit.success ↔ 1 ≤ task.frames ∧ valid.accepted outlet count = task.frames) ∧
        (ended.code ≠ Exit.success → ∃ last, ended.calls.getLast? = some last ∧
          ended.code = if last.readerGone then Exit.failure else Exit.transport)) ∧
      (output = .closed → ended.printed = [] ∧ ended.code = Exit.crashed) ∧
      ended.tree.inspect task.path = .error (.system .noEntry) ∧
      ∀ now pipe, now.inspect task.path = .ok (.fifo pipe) → pipe.inode = arrival.inode →
        let opened := (Owner.start task.path Owner.standardMode).openFifo arrival t
        let sending := task.send 0 (valid.initial opened.owner outlet) count
        (task.conclude format output now sending).tree.inspect task.path = .error (.system .noEntry) := by
  intro count ended
  obtain ⟨path, made, pipe, stands, own⟩ := Owner.openFifo_joined opens
  obtain ⟨sends, events, concluded⟩ := valid.run_sends format output outlet patience opens
  have completed : (∀ a ∈ valid.attempts outlet count, a.failure = none) → 1 ≤ task.frames ∧ count = task.frames :=
    valid.completed opens uninterrupted
  change ended = _ at concluded
  generalize (Owner.start task.path Owner.standardMode).openFifo arrival t = opened
    at path made stands sends concluded ⊢
  -- others may change the tree before the command closes its pipe, so this is told of every tree with the pipe at
  -- the path; the tree that the pipe was opened in is one of them
  have gone : ∀ now pipe, now.inspect task.path = .ok (.fifo pipe) → pipe.inode = arrival.inode →
      (task.conclude format output now (task.send 0 (valid.initial opened.owner outlet) count)).tree.inspect
        task.path = .error (.system .noEntry) := by
    intro now pipe there number
    rw [(sends.conclude task format output now).2.1, sends.session]
    have closed := @Session.close_close
      ⟨opened.owner, some ((Encoder.start valid.timing).after (valid.attempts outlet count))⟩ now pipe
      (path.symm ▸ there) (made.trans (congrArg some number.symm))
    rwa [path] at closed
  obtain ⟨calls, -, healthy, closed⟩ := sends.conclude task format output opened.tree
  rw [concluded]
  refine ⟨calls, fun taken => ?_, closed, gone _ pipe stands own, gone⟩
  obtain ⟨printed, whole, failure⟩ := healthy taken
  rw [valid.summary_eq sends rfl] at printed
  have success : _ ↔ valid.accepted outlet count = count :=
    (Run.code_eq_iff whole failure).trans (valid.accepted_eq_count_iff outlet count).symm
  refine ⟨⟨_, Summary.tells_print _ format, printed⟩, success.trans ⟨fun all => ?_, fun ⟨finite, all⟩ => ?_⟩, ?_⟩
  · obtain ⟨finite, length⟩ := completed ((valid.accepted_eq_count_iff outlet count).1 all)
    exact ⟨finite, all.trans length⟩
  · have most := valid.accepted_le outlet count
    have few : count ≤ task.frames := by
      simp only [count, StreamTask.length, if_neg (Nat.pos_iff_ne_zero.1 finite)]
      exact Nat.min_le_left ..
    omega
  · exact Run.code_of_failed outlet (valid.framesFrom_addressable 0 count) rfl whole calls failure

end StreamTask.Valid

namespace StreamTask

/-- A pipe that takes all but the last byte of the second frame. -/
def scant : Outlet := ⟨true, [.all, .all, .all, .all, .lacking 1]⟩

/-- The bytes of the time stamp of the second frame count, those of its samples do not. -/
theorem run_accounts_short :
    let ended := threeFrames.run .json .healthy { inode := 0 } scant 3 {}
    let line := "\x7b\"path\":\"f.fifo\",\"frames\":1,\"bytes\":36,\"last_timestamp_us\":0,\"stopped\":true\x7d\n"
    ended.printed = (Printout.text line).toBytes ∧ ended.code = Exit.transport ∧
      ended.tree.inspect "f.fifo" = .error (.system .noEntry) := by
  intro ended line
  have uninterrupted : ∀ more, 3 ≤ more →
      threeFrames.run .json .healthy { inode := 0 } scant more {} = ended := by
    intro more patient
    rw [run, length_patient (by decide) patient]
    rfl
  obtain ⟨calls, healthy, -, gone, -⟩ := valid_threeFrames.run_accounts .json .healthy
    (by rfl : ((Owner.start _ _).openFifo { inode := 0 } _).failure = none) uninterrupted
  obtain ⟨⟨text, tells, printed⟩, success, failure⟩ := healthy rfl
  have account : valid_threeFrames.account scant 3 = ⟨"f.fifo", 1, 36, some 0, true⟩ := by decide
  have same : text = line := by
    change Summary.Tells (valid_threeFrames.account scant 3) .json text at tells
    rw [account] at tells
    exact tells.trans (by decide)
  refine ⟨same ▸ printed, ?_, gone⟩
  have accepted : valid_threeFrames.accepted scant 3 ≠ 3 := by decide
  have failed := mt success.1 fun all => accepted all.2
  obtain ⟨last, final, code⟩ := failure failed
  have kept : (ended.calls.getLast?.map WriteCall.readerGone) = some false := calls ▸ by decide
  rw [final, Option.map_some, Option.some.injEq] at kept
  rw [code, kept]
  rfl

end StreamTask

end PlanarPipe
