import PlanarPipe.Fifo.Session
import PlanarPipe.Proofs.Stream.RoundTrip
import PlanarPipe.Proofs.Stream.Stages

/-!
# Sessions that are called in any order

A session is opened, closed and handed frames in any order, and each time the system has its say: which
tree the call finds, which of the calls it refuses, whether a reader comes, and what the pipe answers
(`Session.Call`). What opening can come to is listed in `Session.Opens`. Main statement: in every session
that is reached there is an encoder exactly while the pipe is open, and a stream that has ended with a
failed write stays ended until the session is closed and opened again (`Session.encoder_iff_open`).
-/

namespace PlanarPipe

namespace Owner

variable {o : Owner}

/-- An owner that has its pipe open makes no call. -/
lemma openFifoWithin_open (busy : o.isOpen = true) (refuses : Refusals) (arrival : Arrival) (t : FileTree) :
    o.openFifoWithin refuses arrival t =
      { owner := o, tree := t, failure := some (.alreadyOpen o.path) } := by
  rw [openFifoWithin, if_pos busy]

/-- Whatever is refused, the pipe of an owner is open afterwards exactly if opening it did not fail. -/
lemma openFifoWithin_idle (idle : o.isOpen = false) (refuses : Refusals) (arrival : Arrival)
    (t : FileTree) :
    (o.openFifoWithin refuses arrival t).owner.isOpen =
      (o.openFifoWithin refuses arrival t).failure.isNone := by
  rw [openFifoWithin, if_neg (by rw [idle]; exact Bool.false_ne_true)]
  generalize o.clearWithin refuses t = cleared
  obtain ⟨events, room⟩ := cleared
  cases room with
  | error cause => exact idle
  | ok t =>
    simp only
    generalize o.makeWithin refuses arrival.inode t = made
    obtain ⟨pipe, t⟩ := made
    cases pipe with
    | error cause => exact idle
    | ok pipe =>
      simp only
      cases arrival.refusal with
      | none => rfl
      | some cause => exact idle

end Owner

namespace Session

variable {s : Session} {timing : Timing}

/-- A session has an encoder exactly while its pipe is open. -/
def Matched (s : Session) : Prop := s.encoder.isSome = s.isOpen

/-- A session that is closed has no encoder. -/
lemma Matched.encoder_eq_none (matched : s.Matched) (idle : s.isOpen = false) : s.encoder = none := by
  rw [Matched, idle, Option.isSome_eq_false_iff, Option.isNone_iff_eq_none] at matched
  exact matched

/-- A session that has an encoder is open. -/
lemma Matched.isOpen_of_encoder {e : Encoder} (matched : s.Matched) (has : s.encoder = some e) :
    s.isOpen = true := by
  rw [← matched, has]
  rfl

/-- A session whose stream has ended is still open. -/
lemma Matched.isOpen_of_stopped (matched : s.Matched) (stopped : s.isStopped = true) :
    s.isOpen = true := by
  rw [isStopped, Option.any_eq_true] at stopped
  obtain ⟨e, has, -⟩ := stopped
  exact matched.isOpen_of_encoder has

/-- What comes of opening a session that is closed. -/
inductive Opens (s : Session) (timing : Timing) : Turn → Prop where
  /-- The pipe cannot be made, or no reader comes. -/
  | failed {turn : Turn} {e : FifoError} :
    turn.failure = some (.fifo e) →
    turn.session.isOpen = false →
    turn.session.encoder = s.encoder →
    Opens s timing turn
  /-- The pipe is open, and a stream starts. -/
  | started {turn : Turn} :
    turn.failure = none →
    turn.session.isOpen = true →
    turn.session.encoder = some (.start timing) →
    Opens s timing turn

/-- A session that is opened has a stream that has not ended. -/
lemma Opens.goes_on {turn : Turn} (opens : s.Opens timing turn) (alive : turn.failure = none) :
    turn.session.isOpen = true ∧ turn.session.encoder = some (.start timing) ∧ turn.session.isStopped = false := by
  cases opens with
  | failed failure => cases failure.symm.trans alive
  | started _ opened encoder =>
    refine ⟨opened, encoder, ?_⟩
    rw [isStopped, encoder]
    rfl

/-- A session whose pipe is opened starts a stream with a new encoder. -/
lemma openStreamWithin_alive {refuses : Refusals} {arrival : Arrival} {t : FileTree} (timing : Timing)
    (alive : (s.owner.openFifoWithin refuses arrival t).failure = none) :
    let opened := s.owner.openFifoWithin refuses arrival t
    let turn := s.openStreamWithin refuses timing arrival t
    turn.failure = none ∧ turn.session = ⟨opened.owner, some (.start timing)⟩ ∧ turn.tree = opened.tree := by
  rw [openStreamWithin]
  generalize s.owner.openFifoWithin refuses arrival t = opened at alive ⊢
  rw [alive]
  exact ⟨rfl, rfl, rfl⟩

/-- A session that is open is not opened again, and nothing changes. -/
lemma openStreamWithin_open (busy : s.isOpen = true) (refuses : Refusals) (timing : Timing)
    (arrival : Arrival) (t : FileTree) :
    s.openStreamWithin refuses timing arrival t =
      { session := s, tree := t, failure := some (.fifo (.alreadyOpen s.owner.path)) } := by
  rw [openStreamWithin, s.owner.openFifoWithin_open busy]

/-- Opening a session that is closed comes to one of the listed ends. -/
lemma openStreamWithin_opens (idle : s.isOpen = false) (refuses : Refusals) (timing : Timing)
    (arrival : Arrival) (t : FileTree) :
    s.Opens timing (s.openStreamWithin refuses timing arrival t) := by
  have state := s.owner.openFifoWithin_idle idle refuses arrival t
  rw [openStreamWithin]
  generalize s.owner.openFifoWithin refuses arrival t = opened at state ⊢
  simp only
  split
  case h_1 e failed =>
    rw [failed] at state
    exact .failed rfl state rfl
  case h_2 alive =>
    rw [alive] at state
    exact .started rfl state rfl

/-- An open session hands a frame to its encoder. -/
lemma pushWithin_open {e : Encoder} (busy : s.isOpen = true) (has : s.encoder = some e)
    (room : Nat → Bool) (f : Frame) (outlet : Outlet) :
    let a := e.pushWithin room f outlet
    s.pushWithin room f outlet =
      { session := { s with encoder := some a.encoder }, calls := a.calls, outlet := a.outlet
        events := a.events, failure := a.failure.map .encode } := by
  have same : { s with encoder := some e } = s := by rw [← has]
  rw [pushWithin, has]
  simp only
  split
  case isTrue stopped =>
    rw [Encoder.pushWithin, if_pos stopped]
    exact congrArg (Push.mk · [] outlet [] (some (.encode .stopped))) same.symm
  case isFalse => exact if_pos busy

/-- Without an encoder a push fails and makes no call. -/
lemma pushWithin_closed (none : s.encoder = none) (room : Nat → Bool) (f : Frame) (outlet : Outlet) :
    s.pushWithin room f outlet = { session := s, outlet, failure := some (.encode .notOpen) } := by
  rw [pushWithin, none]

/-- A push fails for want of an open pipe exactly where there is no encoder. -/
lemma Matched.notOpen_iff (matched : s.Matched) (room : Nat → Bool) (f : Frame) (outlet : Outlet) :
    (s.pushWithin room f outlet).failure = some (.encode .notOpen) ↔ s.isOpen = false := by
  cases has : s.encoder with
  | none =>
    have idle : s.isOpen = false := by rw [← matched, has]; rfl
    rw [pushWithin_closed has]
    exact ⟨fun _ => idle, fun _ => rfl⟩
  | some e =>
    have busy := matched.isOpen_of_encoder has
    rw [pushWithin_open busy has, busy]
    refine ⟨fun failed => ?_, nofun⟩
    rcases e.failure_pushWithin room f outlet with failure | failure | ⟨part, cause, failure⟩ <;>
      rw [failure] at failed <;> cases failed

/-- A call on a session, with all that the system has a say in. -/
inductive Call where
  /-- The session is opened: which tree is found, and what its pipe answers if it opens. -/
  | opens (timing : Timing) (arrival : Arrival) (refuses : Refusals) (tree : FileTree) (outlet : Outlet)
  | pushes (f : Frame)
  | closes (refuses : Refusals) (tree : FileTree)

def Call.isClose : Call → Bool
  | closes _ _ => true
  | opens _ _ _ _ _ | pushes _ => false

/-- A session, and what its pipe has not answered yet. -/
structure Link where
  session : Session
  outlet : Outlet

/-- What a call makes known: its write calls, and how it failed if it did. -/
structure Report where
  calls : List WriteCall := []
  failure : Option SessionError := none

namespace Link

/-- One call. `room` tells which buffers can be had. -/
def perform (room : Nat → Bool) (l : Link) : Call → Report × Link
  | .opens timing arrival refuses tree outlet =>
    let turn := l.session.openStreamWithin refuses timing arrival tree
    ({ failure := turn.failure }, ⟨turn.session, if turn.failure.isNone then outlet else l.outlet⟩)
  | .pushes f =>
    let pushed := l.session.pushWithin room f l.outlet
    ({ calls := pushed.calls, failure := pushed.failure }, ⟨pushed.session, pushed.outlet⟩)
  | .closes refuses tree => ({}, ⟨(l.session.closeWithin refuses tree).session, l.outlet⟩)

/-- What a session has become after some calls. -/
def after (room : Nat → Bool) (l : Link) (calls : List Call) : Link :=
  calls.foldl (fun l c => (l.perform room c).2) l

variable {l : Link} {room : Nat → Bool} {c : Call} {calls : List Call}

/-- Some calls are the first of them and the others. -/
lemma after_cons : l.after room (c :: calls) = (l.perform room c).2.after room calls := rfl

/-- Calls and later calls are made one after the other. -/
lemma after_append (calls later : List Call) :
    l.after room (calls ++ later) = (l.after room calls).after room later := List.foldl_append

/-- A session that is open refuses to be opened, and nothing changes. -/
lemma perform_opens_open (busy : l.session.isOpen = true) (room : Nat → Bool) (timing : Timing)
    (arrival : Arrival) (refuses : Refusals) (tree : FileTree) (outlet : Outlet) :
    l.perform room (.opens timing arrival refuses tree outlet) =
      ({ failure := some (.fifo (.alreadyOpen l.session.owner.path)) }, l) := by
  rw [perform, openStreamWithin_open busy]
  rfl

/-- A call keeps the encoder and the pipe together. -/
lemma matched_perform (matched : l.session.Matched) : (l.perform room c).2.session.Matched := by
  cases c with
  | closes refuses tree => rfl
  | opens timing arrival refuses tree outlet =>
    cases busy : l.session.isOpen with
    | true =>
      rw [perform_opens_open busy]
      exact matched
    | false =>
      have opens := openStreamWithin_opens busy refuses timing arrival tree
      rw [perform]
      generalize l.session.openStreamWithin refuses timing arrival tree = turn at opens ⊢
      cases opens with
      | failed _ closed encoder => rw [Matched, encoder, closed, ← busy, matched]
      | started _ opened encoder => rw [Matched, encoder, opened]; rfl
  | pushes f =>
    rw [perform]
    cases has : l.session.encoder with
    | none =>
      rw [pushWithin_closed has]
      exact matched
    | some e =>
      have busy := matched.isOpen_of_encoder has
      rw [pushWithin_open busy has]
      exact busy.symm

/-- All calls keep the encoder and the pipe together. -/
lemma matched_after (matched : l.session.Matched) (calls : List Call) :
    (l.after room calls).session.Matched := by
  induction calls generalizing l with
  | nil => exact matched
  | cons c calls ih => exact ih (matched_perform matched)

/-- Where a stream has ended nothing but closing the session changes anything. -/
lemma perform_stopped (matched : l.session.Matched) (stopped : l.session.isStopped = true)
    (kept : c.isClose = false) : (l.perform room c).2 = l := by
  have busy := matched.isOpen_of_stopped stopped
  cases c with
  | closes => cases kept
  | opens => rw [perform_opens_open busy]
  | pushes f =>
    rw [isStopped, Option.any_eq_true] at stopped
    obtain ⟨e, has, stopped⟩ := stopped
    rw [perform, Session.pushWithin, has]
    simp only [stopped, if_true]

/-- Where a stream has ended calls change nothing until the session is closed. -/
lemma after_stopped (matched : l.session.Matched) (stopped : l.session.isStopped = true)
    (kept : ∀ c ∈ calls, c.isClose = false) : l.after room calls = l := by
  induction calls with
  | nil => rfl
  | cons c calls ih =>
    obtain ⟨first, later⟩ := List.forall_mem_cons.1 kept
    rw [after_cons, perform_stopped matched stopped first]
    exact ih later

/-- A session that is closed is opened by one of the calls that follow, or stays closed. -/
lemma opened_of_closed (closed : l.session.isOpen = false) (matched : l.session.Matched)
    (opened : (l.after room calls).session.isOpen = true) :
    ∃ middle timing arrival refuses tree outlet later,
      calls = middle ++ .opens timing arrival refuses tree outlet :: later ∧
        ((l.after room middle).perform room (.opens timing arrival refuses tree outlet)).1.failure =
          none := by
  induction calls generalizing l with
  | nil =>
    rw [after, List.foldl_nil, closed] at opened
    cases opened
  | cons c calls ih =>
    -- the session is still closed after this call, or the call has opened it
    have next : (l.perform room c).2.session.isOpen = false ∨
        ∃ timing arrival refuses tree outlet, c = .opens timing arrival refuses tree outlet ∧
          (l.perform room c).1.failure = none := by
      cases c with
      | closes => exact .inl rfl
      | pushes f =>
        rw [perform, pushWithin_closed (matched.encoder_eq_none closed)]
        exact .inl closed
      | opens timing arrival refuses tree outlet =>
        have opens := openStreamWithin_opens closed refuses timing arrival tree
        rw [perform]
        generalize l.session.openStreamWithin refuses timing arrival tree = turn at opens ⊢
        cases opens with
        | failed _ still => exact .inl still
        | started alive => exact .inr ⟨_, _, _, _, _, rfl, alive⟩
    rcases next with still | ⟨timing, arrival, refuses, tree, outlet, rfl, alive⟩
    · obtain ⟨middle, timing, arrival, refuses, tree, outlet, later, rfl, alive⟩ :=
        ih still (matched_perform matched) opened
      exact ⟨c :: middle, timing, arrival, refuses, tree, outlet, later, rfl, alive⟩
    · exact ⟨[], timing, arrival, refuses, tree, outlet, calls, rfl, alive⟩

/-- From an ended stream to one that goes on there is no way but to close the session and to open it. -/
lemma restarted_of_stopped (matched : l.session.Matched) (stopped : l.session.isStopped = true)
    (opened : (l.after room calls).session.isOpen = true)
    (going : (l.after room calls).session.isStopped = false) :
    ∃ before refuses tree middle timing arrival refuses' tree' outlet later,
      calls = before ++ .closes refuses tree ::
          (middle ++ .opens timing arrival refuses' tree' outlet :: later) ∧
        ((l.after room (before ++ .closes refuses tree :: middle)).perform room
          (.opens timing arrival refuses' tree' outlet)).1.failure = none := by
  induction calls with
  | nil =>
    rw [after, List.foldl_nil, stopped] at going
    cases going
  | cons c calls ih =>
    -- an ended stream goes on after no call but a close, so the first close is where the way begins
    cases kept : c.isClose with
    | false =>
      rw [after_cons, perform_stopped matched stopped kept] at opened going
      obtain ⟨before, refuses, tree, middle, timing, arrival, refuses', tree', outlet, later, rfl, alive⟩ :=
        ih opened going
      refine ⟨c :: before, refuses, tree, middle, timing, arrival, refuses', tree', outlet, later, rfl, ?_⟩
      rwa [List.cons_append, after_cons, perform_stopped matched stopped kept]
    | true =>
      cases c with
      | opens => cases kept
      | pushes => cases kept
      | closes refuses tree =>
        have closed : (l.perform room (.closes refuses tree)).2.session.isOpen = false := rfl
        obtain ⟨middle, timing, arrival, refuses', tree', outlet, later, rfl, alive⟩ :=
          opened_of_closed closed (matched_perform matched) opened
        exact ⟨[], refuses, tree, middle, timing, arrival, refuses', tree', outlet, later, rfl, alive⟩

end Link

/-- In every session that is reached, whatever was called and whatever the system had to say:
there is an encoder exactly while the pipe is open; a push fails for want of an open pipe exactly while it
is not; opening an open session fails and changes neither the session nor the tree; opening a closed one
fails and leaves it closed without an encoder, or it starts a new stream; closing a session leaves it closed
without an encoder, so that opening it again may start a stream that goes on; and an ended stream, for which
the pipe is still open, stays as it is until the session is closed and then opened again. -/
theorem encoder_iff_open (room : Nat → Bool) (path : String) (mode : Nat) (outlet : Outlet)
    (calls : List Call) :
    let l := Link.after room ⟨.start path mode, outlet⟩ calls
    let s := l.session
    s.encoder.isSome = s.isOpen ∧
    (∀ room f outlet, (s.pushWithin room f outlet).failure = some (.encode .notOpen) ↔ s.isOpen = false) ∧
    (s.isOpen = true → ∀ refuses timing arrival t,
      s.openStreamWithin refuses timing arrival t =
        { session := s, tree := t, failure := some (.fifo (.alreadyOpen s.owner.path)) }) ∧
    (s.isOpen = false → ∀ refuses timing arrival t,
      let turn := s.openStreamWithin refuses timing arrival t
      (turn.failure ≠ none → turn.session.isOpen = false ∧ turn.session.encoder = none) ∧
        (turn.failure = none → turn.session.isOpen = true ∧ turn.session.encoder = some (.start timing))) ∧
    (∀ refuses t, let closed := (s.closeWithin refuses t).session
      closed.isOpen = false ∧ closed.encoder = none ∧
        ∀ refuses timing arrival t, let turn := closed.openStreamWithin refuses timing arrival t
          turn.failure = none → turn.session.isOpen = true ∧ turn.session.encoder = some (.start timing) ∧
            turn.session.isStopped = false) ∧
    (s.isStopped = true → s.isOpen = true ∧ ∀ later,
      ((∀ c ∈ later, c.isClose = false) → l.after room later = l) ∧
        ((l.after room later).session.isOpen = true → (l.after room later).session.isStopped = false →
          ∃ before refuses tree middle timing arrival refuses' tree' outlet rest,
            later = before ++ .closes refuses tree ::
                (middle ++ .opens timing arrival refuses' tree' outlet :: rest) ∧
              ((l.after room (before ++ .closes refuses tree :: middle)).perform room
                (.opens timing arrival refuses' tree' outlet)).1.failure = none)) := by
  intro l s
  have fresh : (Session.start path mode).Matched := rfl
  have matched : s.Matched := Link.matched_after (l := ⟨.start path mode, outlet⟩) fresh calls
  refine ⟨matched, matched.notOpen_iff, openStreamWithin_open, fun idle refuses timing arrival t => ?_,
    fun refuses t => ⟨rfl, rfl, fun refuses' timing arrival t' => ?_⟩, ?_⟩
  · have opens := openStreamWithin_opens idle refuses timing arrival t
    refine ⟨fun failed => ?_, fun alive => ⟨(opens.goes_on alive).1, (opens.goes_on alive).2.1⟩⟩
    cases opens with
    | failed _ closed encoder => exact ⟨closed, encoder.trans (matched.encoder_eq_none idle)⟩
    | started alive => exact absurd alive failed
  · exact (openStreamWithin_opens (s := (s.closeWithin refuses t).session) rfl refuses' timing arrival t').goes_on
  · intro stopped
    refine ⟨matched.isOpen_of_stopped stopped, fun later => ⟨fun kept => ?_, fun opened going => ?_⟩⟩
    · exact Link.after_stopped matched stopped kept
    · exact Link.restarted_of_stopped matched stopped opened going

/-- The reader has gone after it came: a frame that follows, and an attempt to open again, change nothing. -/
theorem encoder_iff_open_abandoned :
    let l := Link.after Encoder.plenty ⟨.start "f.fifo" Owner.standardMode, .unlimited⟩
      [.opens Receiver.ntscTiming { inode := 0 } granted {} .abandoned, .pushes Receiver.flatFrame]
    l.session.isStopped = true ∧ l.session.isOpen = true ∧
      l.after Encoder.plenty
        [.pushes Receiver.paddedFrame, .opens Receiver.ntscTiming { inode := 1 } granted {} .unlimited] = l := by
  have stopped : (Link.after Encoder.plenty ⟨.start "f.fifo" Owner.standardMode, .unlimited⟩
      [.opens Receiver.ntscTiming { inode := 0 } granted {} .abandoned,
        .pushes Receiver.flatFrame]).session.isStopped = true := by rfl
  have ended := (encoder_iff_open Encoder.plenty "f.fifo" Owner.standardMode .unlimited
    [.opens Receiver.ntscTiming { inode := 0 } granted {} .abandoned, .pushes Receiver.flatFrame]).2.2.2.2.2 stopped
  refine ⟨stopped, ended.1, (ended.2 _).1 ?_⟩
  decide

end Session

end PlanarPipe
