import PlanarPipe.Command.Stream
import PlanarPipe.Proofs.Fifo.Turns
import PlanarPipe.Proofs.Report.Summary
import PlanarPipe.Proofs.Stream.Ending
import PlanarPipe.Proofs.Video.Drawing

/-!
# Sending the test pattern is one session of pushes

The command pushes one frame after the other and leaves off at the first that fails, while a session goes on
and pushes the others in vain. The two make the same calls and keep the same books (`StreamTask.Valid.send_sends`),
so that what is known of sessions holds of the command.
-/

namespace PlanarPipe

namespace Run

variable {r : Run} {text : String}

/-- What is printed makes no difference to what was sent, nor to the tree. -/
lemma say_keeps (r : Run) (output : Output) (text : String) (later : List Event) :
    (r.say output text later).calls = r.calls ∧ (r.say output text later).tree = r.tree := by
  rw [say]
  cases output.print (.text text) with
  | ok | error => exact ⟨rfl, rfl⟩

/-- An output that is closed breaks a run off with a code of its own, however it has fared. -/
lemma say_closed (some : text ≠ "") (r : Run) (later : List Event) :
    (r.say .closed text later).printed = r.printed ∧ (r.say .closed text later).code = Exit.crashed := by
  rw [say, Output.print_closed some]
  exact ⟨rfl, rfl⟩

end Run

namespace StreamTask

/-- What the command can be asked to send, where memory holds the planes that it draws. -/
structure Valid (task : StreamTask) : Prop where
  pixels : task.size.isEmpty = false
  rate : 0 < task.fps
  countable : task.frames ≤ Bytes.maxWord
  runs : task.resizeEvery ≠ some 0
  /-- The first plane is the largest, and no frame is larger than those at the start. -/
  held : (task.width.toNat + task.pad) * task.height.toNat ≤ Bytes.maxSlice

/-- A frame takes one tick. -/
lemma one_pos : (0 : Int32) < 1 := by decide

/-- The size of a frame. -/
def sizeAt (task : StreamTask) (index : Nat) : Size :=
  Pattern.sizeAt task.size (UInt64.ofNat index) task.resizeEvery

/-- All frames are sent if the user is patient. -/
lemma length_patient {task : StreamTask} {patience : Nat} (finite : 1 ≤ task.frames)
    (patient : task.frames ≤ patience) : task.length patience = task.frames := by
  rw [StreamTask.length, if_neg (Nat.pos_iff_ne_zero.1 finite), Nat.min_eq_left patient]

/-- What a stream of frames has become when one of them has been pushed. -/
def proceed (task : StreamTask) (p : Progress) (index : Nat) (a : Attempt) : Progress where
  session := { p.session with encoder := some a.encoder }
  pattern := ⟨task.pad, Pattern.drawPlane (task.sizeAt index) task.pad (UInt64.ofNat index)⟩
  outlet := a.outlet
  lastStamp := if a.failure = none then some (a.encoder.timing.stamp (task.pts index)) else p.lastStamp

/-- What sending some frames comes to, told from the attempts of a session that pushes all of them. -/
structure Sends (frames : List Frame) (p : Progress) (e : Encoder) (attempts : List Attempt) (s : Sending) :
    Prop where
  session : s.progress.session = { p.session with encoder := some (e.after attempts) }
  calls : s.calls = attempts.flatMap Attempt.calls
  halt : s.halt = (attempts.findSome? Attempt.failure).elim .finished fun cause => .unsent (.encode cause)
  /-- The time stamp is that of the last frame that was acknowledged. -/
  lastStamp : s.progress.lastStamp =
    ((frames.take (attempts.countP fun a => a.failure.isNone)).getLast?.map
      fun f => e.timing.stamp f.pts).or p.lastStamp

/-- A stream of frames ends with a summary, whatever was sent, and its pipe is closed twice. -/
lemma Sends.conclude {frames : List Frame} {p : Progress} {e : Encoder} {attempts : List Attempt} {s : Sending}
    (sends : Sends frames p e attempts s) (task : StreamTask) (format : Format) (output : Output)
    (t : FileTree) :
    let r := task.conclude format output t s
    let closed := s.progress.session.close t
    r.calls = attempts.flatMap Attempt.calls ∧
      r.tree = (closed.session.close closed.tree).tree ∧
      (output = .healthy →
        r.printed = (Printout.text ((task.summary s.progress).print format)).toBytes ∧ r.crash = none ∧
          r.failure = (attempts.findSome? Attempt.failure).map (Exit.ofEncodeError "push failed")) ∧
      (output = .closed → r.printed = [] ∧ r.code = Exit.crashed) := by
  intro r closed
  let finished : Event :=
    { level := .info, origin := .streamCommand, message := "stream finished"
      fields := [("frames", .number (task.summary s.progress).frames)] }
  let ended : Run :=
    { tree := (closed.session.close closed.tree).tree, calls := s.calls
      events := s.events ++ closed.events ++ [finished], failure := s.halt.failure }
  let left := (closed.session.close closed.tree).events
  have failure : s.halt.failure = (attempts.findSome? Attempt.failure).map (Exit.ofEncodeError "push failed") := by
    rw [sends.halt]
    cases attempts.findSome? Attempt.failure with
    | none | some cause => rfl
  -- a sending that goes through its frames has no frame that could not be made, so there is a summary to print
  have said : r = ended.say output ((task.summary s.progress).print format) left := by
    have halt := sends.halt
    simp only [r, StreamTask.conclude]
    split
    case h_1 cause unmade =>
      rw [unmade] at halt
      cases first : attempts.findSome? Attempt.failure with
      | none | some error =>
        rw [first] at halt
        cases halt
    case h_2 => rfl
  obtain ⟨calls, tree⟩ := ended.say_keeps output ((task.summary s.progress).print format) left
  rw [said]
  refine ⟨calls.trans sends.calls, tree, ?healthy, ?closed⟩
  case healthy =>
    rintro rfl
    exact ⟨rfl, rfl, failure⟩
  case closed =>
    rintro rfl
    exact Run.say_closed ((task.summary s.progress).print_ne_empty format) ended left

namespace Valid

variable {task : StreamTask} (valid : task.Valid)

def timing : Timing := { base := ⟨1, task.fps, one_pos, valid.rate⟩, rounding := .standard }

def frame (index : Nat) : Frame :=
  Pattern.frame (Pattern.isEmpty_sizeAt valid.pixels (UInt64.ofNat index) task.resizeEvery) task.pad
    (UInt64.ofNat index) (task.pts index)

/-- So many frames from a frame on. -/
def framesFrom (index count : Nat) : List Frame := (List.range' index count).map valid.frame

/-- Some frames are the first of them and those from the next number on. -/
lemma framesFrom_succ (index count : Nat) :
    valid.framesFrom index (count + 1) = valid.frame index :: valid.framesFrom (index + 1) count := rfl

/-- Memory holds each frame. -/
lemma frame_addressable (index : Nat) : (valid.frame index).Addressable :=
  Pattern.frame_addressable _ _ _ _ (Pattern.sizeAt_within valid.pixels _ _) valid.held

/-- Memory holds all frames. -/
lemma framesFrom_addressable (index count : Nat) : ∀ f ∈ valid.framesFrom index count, f.Addressable := by
  intro f mem
  obtain ⟨i, -, rfl⟩ := List.mem_map.1 mem
  exact valid.frame_addressable i

/-- Sending frames is pushing the first one, and sending the others if it does not fail. -/
lemma send_succ {p : Progress} {e : Encoder} (busy : p.session.isOpen = true)
    (has : p.session.encoder = some e) (padded : p.pattern.pad = task.pad) (index count : Nat) :
    let a := e.pushWithin Encoder.plenty (valid.frame index) p.outlet
    let s := task.send index p (count + 1)
    let p := task.proceed p index a
    let later := task.send (index + 1) p count
    (a.failure = none → s.progress = later.progress ∧ s.halt = later.halt ∧ s.calls = a.calls ++ later.calls) ∧
      ∀ cause, a.failure = some cause → s.progress = p ∧ s.halt = .unsent (.encode cause) ∧ s.calls = a.calls := by
  have drawn := p.pattern.render_eq (Pattern.isEmpty_sizeAt valid.pixels (UInt64.ofNat index) task.resizeEvery)
    (UInt64.ofNat index) (task.pts index)
  rw [padded] at drawn
  change _ = (Except.ok (valid.frame index), _) at drawn
  have pushed := Session.pushWithin_open busy has Encoder.plenty (valid.frame index) p.outlet
  rw [send]
  simp only [drawn, Session.push, pushed, proceed]
  generalize e.pushWithin Encoder.plenty (valid.frame index) p.outlet = a
  cases a.failure with
  | none => exact ⟨fun _ => ⟨rfl, rfl, rfl⟩, nofun⟩
  | some cause =>
    refine ⟨nofun, ?_⟩
    rintro _ ⟨⟩
    exact ⟨rfl, rfl, rfl⟩

/-- Sending frames is pushing them in a session. -/
lemma send_sends {p : Progress} {e : Encoder} (busy : p.session.isOpen = true)
    (has : p.session.encoder = some e) (going : e.stopped = false) (padded : p.pattern.pad = task.pad)
    (index count : Nat) :
    Sends (valid.framesFrom index count) p e
      (e.pushAll Encoder.plenty p.outlet (valid.framesFrom index count)) (task.send index p count) := by
  induction count generalizing index p e with
  | zero =>
    refine ⟨?_, rfl, rfl, rfl⟩
    change p.session = { p.session with encoder := some e }
    rw [← has]
  | succ count ih =>
    have held := valid.frame_addressable index
    have stops := (Encoder.push_performs Encoder.plenty p.outlet held.exact going).2.2
    have timing := (e.push_accounts Encoder.plenty p.outlet held).timing
    obtain ⟨acknowledged, failed⟩ := valid.send_succ busy has padded index count
    rw [framesFrom_succ]
    cases outcome : (e.pushWithin Encoder.plenty (valid.frame index) p.outlet).failure with
    | none =>
      rw [outcome] at stops
      obtain ⟨progress, halt, calls⟩ := acknowledged outcome
      obtain ⟨allCalls, first, successes⟩ := Encoder.pushAll_acknowledged (valid.framesFrom (index + 1) count) outcome
      -- the rest is sent with what the encoder has become
      have later := @ih (task.proceed p index (e.pushWithin Encoder.plenty (valid.frame index) p.outlet)) _ busy rfl
        stops rfl (index + 1)
      refine ⟨?_, ?_, ?_, ?_⟩
      · rw [progress, later.session, Encoder.pushAll, Encoder.after_cons]
        rfl
      · rw [calls, later.calls, allCalls]
        rfl
      · rw [halt, later.halt, first]
        rfl
      · rw [progress, later.lastStamp, timing, successes, List.take_succ_cons, proceed, if_pos outcome, timing]
        generalize (valid.framesFrom (index + 1) count).take _ = others
        cases others using List.reverseRecOn with
        | nil => rfl
        | append_singleton frames f _ =>
          rw [← List.cons_append, List.getLast?_concat, List.getLast?_concat]
          rfl
    | some cause =>
      rw [outcome] at stops
      obtain ⟨progress, halt, calls⟩ := failed cause outcome
      obtain ⟨allCalls, first, successes⟩ := Encoder.pushAll_failed (valid.framesFrom (index + 1) count) held going
        outcome
      refine ⟨?_, ?_, ?_, ?_⟩
      · rw [progress, Encoder.pushAll, Encoder.after_cons, Encoder.after_stopped Encoder.plenty stops]
        rfl
      · rw [calls, allCalls]
      · rw [halt, first]
        rfl
      · rw [progress, successes, proceed, outcome, if_neg (Option.some_ne_none cause)]
        rfl

/-- A stream of frames at its start, with a new encoder. -/
def initial (owner : Owner) (outlet : Outlet) : Progress where
  session := ⟨owner, some (.start valid.timing)⟩
  pattern := .start task.pad
  outlet := outlet

/-- The pushes of so many frames. After one that fails the others make no calls. -/
def attempts (outlet : Outlet) (count : Nat) : List Attempt :=
  session valid.timing Encoder.plenty outlet (valid.framesFrom 0 count)

/-- There is an attempt for each frame. -/
lemma length_attempts (outlet : Outlet) (count : Nat) : (valid.attempts outlet count).length = count := by
  rw [attempts, session, Encoder.length_pushAll, framesFrom, List.length_map, List.length_range']

/-- A command that opens its pipe sends its frames in one session, and then concludes. -/
lemma run_sends {arrival : Arrival} {t : FileTree} (format : Format) (output : Output) (outlet : Outlet)
    (patience : Nat) (opens : ((Owner.start task.path Owner.standardMode).openFifo arrival t).failure = none) :
    let opened := (Owner.start task.path Owner.standardMode).openFifo arrival t
    let count := task.length patience
    let sending := task.send 0 (valid.initial opened.owner outlet) count
    let concluded := task.conclude format output opened.tree sending
    let r := task.run format output arrival outlet patience t
    Sends (valid.framesFrom 0 count) (valid.initial opened.owner outlet) (.start valid.timing)
        (valid.attempts outlet count) sending ∧
      ∃ events, r = { concluded with events } := by
  intro opened count sending concluded r
  have base : TimeBase.build 1 task.fps = .ok valid.timing.base := dif_pos ⟨one_pos, valid.rate⟩
  have busy : opened.owner.isOpen = true := by
    rw [show opened.owner.isOpen = opened.failure.isNone from Owner.openFifoWithin_idle rfl granted arrival t]
    exact Option.isNone_iff_eq_none.2 opens
  have made : (Owner.start task.path Owner.standardMode).openFifoWithin granted arrival t = opened := rfl
  have alive : opened.failure = none := opens
  refine ⟨valid.send_sends (p := valid.initial opened.owner outlet) busy rfl rfl rfl 0 count, ?_⟩
  simp only [r, run, base, Session.openStream, Session.openStreamWithin, Session.start, made, alive]
  exact ⟨_, rfl⟩

end Valid

/-- Three frames, two to a run, of three by two pixels and rows padded with one byte. -/
def threeFrames : StreamTask where
  path := "f.fifo"
  width := 3
  height := 2
  frames := 3
  fps := 30
  pad := 1
  resizeEvery := some 2
  noPts := false
  realtime := false

/-- Three such frames can be asked for. -/
lemma valid_threeFrames : threeFrames.Valid := ⟨by decide, by decide, by decide, by decide, by decide⟩

end StreamTask

end PlanarPipe
