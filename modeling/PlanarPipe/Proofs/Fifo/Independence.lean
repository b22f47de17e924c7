import PlanarPipe.Proofs.Fifo.Turns
import PlanarPipe.Proofs.Stream.Acknowledgement
import PlanarPipe.Proofs.Stream.Ledger

/-!
# Streams of one session do not know of each other

Each time a session is opened it starts a stream. Until it is closed again its pushes are those of a new
encoder, whatever was called before and whatever is called in between (`Session.Link.pushes_open`). A
reader that came for this stream alone thus takes it apart by itself. Main statement:
`Session.streams_are_independent`.
-/

namespace PlanarPipe

open Wire

namespace Session

/-- The frame that a call hands over. -/
def Call.frame? : Call → Option Frame
  | pushes f => some f
  | opens _ _ _ _ _ | closes _ _ => none

/-- What an attempt to write a frame makes known. -/
def Report.ofAttempt (a : Attempt) : Report := ⟨a.calls, a.failure.map .encode⟩

namespace Link

/-- What some calls make known, one after the other. -/
def reports (room : Nat → Bool) (l : Link) : List Call → List Report
  | [] => []
  | c :: calls => (l.perform room c).1 :: (l.perform room c).2.reports room calls

/-- What those of some calls make known that hand over a frame. -/
def pushReports (room : Nat → Bool) (l : Link) (calls : List Call) : List Report :=
  ((calls.zip (l.reports room calls)).filter fun turn => turn.1.frame?.isSome).map Prod.snd

variable {l : Link} {room : Nat → Bool} {calls : List Call} {e : Encoder}

/-- A push in an open session is an attempt of its encoder. -/
lemma perform_pushes_open (busy : l.session.isOpen = true) (has : l.session.encoder = some e)
    (room : Nat → Bool) (f : Frame) :
    let a := e.pushWithin room f l.outlet
    l.perform room (.pushes f) =
      (.ofAttempt a, ⟨{ l.session with encoder := some a.encoder }, a.outlet⟩) := by
  rw [perform, pushWithin_open busy has]
  rfl

/-- While a session stays open it makes the calls of its encoder and reports what that comes to. An
attempt to open it makes no call. -/
lemma pushes_open (busy : l.session.isOpen = true) (has : l.session.encoder = some e)
    (room : Nat → Bool) (kept : ∀ c ∈ calls, c.isClose = false) :
    let attempts := e.pushAll room l.outlet (calls.filterMap Call.frame?)
    l.pushReports room calls = attempts.map .ofAttempt ∧
      (l.reports room calls).flatMap Report.calls = attempts.flatMap Attempt.calls ∧
      (l.after room calls).session.encoder = some (e.after attempts) := by
  induction calls generalizing l e with
  | nil => exact ⟨rfl, rfl, has⟩
  | cons c calls ih =>
    obtain ⟨first, later⟩ := List.forall_mem_cons.1 kept
    cases c with
    | closes => cases first
    -- the session is open, so opening it again is rejected and leaves it as it is
    | opens timing arrival refuses tree outlet =>
      have rejected := perform_opens_open busy room timing arrival refuses tree outlet
      have rest := ih busy has later
      rw [pushReports, reports, after_cons, rejected]
      exact rest
    | pushes f =>
      have handed := perform_pushes_open busy has room f
      let next : Link := ⟨{ l.session with encoder := some (e.pushWithin room f l.outlet).encoder },
        (e.pushWithin room f l.outlet).outlet⟩
      obtain ⟨results, calls, encoder⟩ := @ih next _ busy rfl later
      rw [pushReports, reports, after_cons, handed]
      refine ⟨?_, ?_, ?_⟩
      · exact congrArg (_ :: ·) results
      · exact congrArg (_ ++ ·) calls
      · rw [encoder]
        exact congrArg some (Encoder.after_cons ..).symm

/-- A call that opens a session leaves it open, with a new encoder and the outlet of its pipe. -/
lemma perform_opens {timing : Timing} {arrival : Arrival}
    {refuses : Refusals} {tree : FileTree} {outlet : Outlet}
    (opened : (l.perform room (.opens timing arrival refuses tree outlet)).1.failure = none) :
    let next := (l.perform room (.opens timing arrival refuses tree outlet)).2
    next.session.isOpen = true ∧ next.session.encoder = some (.start timing) ∧ next.outlet = outlet := by
  cases busy : l.session.isOpen with
  | true =>
    rw [perform_opens_open busy] at opened
    cases opened
  | false =>
    have opens := openStreamWithin_opens busy refuses timing arrival tree
    rw [perform] at opened ⊢
    generalize l.session.openStreamWithin refuses timing arrival tree = turn at opens opened ⊢
    cases opens with
    | failed failure =>
      rw [failure] at opened
      cases opened
    | started alive started encoder => exact ⟨started, encoder, by rw [alive]; rfl⟩

end Link

end Session

/-- The first call of a stream offers the announcement of its first frame. -/
lemma session_announces (timing : Timing) (room : Nat → Bool) (outlet : Outlet) (f : Frame)
    (frames : List Frame) :
    ∃ call more, (session timing room outlet (f :: frames)).flatMap Attempt.calls = call :: more ∧
      call.offer = .single (encodeSize f.size) := by
  have new : f.size ≠ (Encoder.start timing).announced := by
    intro unset
    have pixels := f.size_ne
    rw [unset] at pixels
    cases pixels
  obtain ⟨call, more, calls, offer⟩ := Encoder.pushWithin_announces room outlet rfl new
  let a := (Encoder.start timing).pushWithin room f outlet
  refine ⟨call, more ++ (a.encoder.pushAll room a.outlet frames).flatMap Attempt.calls, ?_, offer⟩
  rw [session, Encoder.pushAll, List.flatMap_cons, calls]
  rfl

/-- A reader that is given what an honest outlet took of one stream finds the frames that were
acknowledged, and no error but an early end. -/
lemma session_read_alone {timing : Timing} {room : Nat → Bool} {outlet : Outlet} {frames : List Frame}
    {limit : Nat} {source : Source} (readable : ∀ f ∈ frames, f.Readable limit timing)
    (honest : ∀ a ∈ session timing room outlet frames, a.Honest) (steady : source.Steady)
    (handed : source.data = sent (session timing room outlet frames)) :
    ∃ delivered lost, frames = delivered ++ lost ∧
      (session timing room outlet frames).map (fun a => a.failure.isNone) =
        List.replicate delivered.length true ++ List.replicate lost.length false ∧
      let (records, ending, _) := (Receiver.start source limit).records
      transcript timing delivered <+: records ∧
        records.filterMap Record.picture? = delivered.map (Frame.picture timing) ∧
        (ending = none ∨ ending = some (.failed .ended)) := by
  have delivers : Delivers timing none frames (session timing room outlet frames) :=
    Encoder.pushAll_delivers (.start timing) room outlet (fun f mem => (readable f mem).held) rfl
  obtain ⟨delivered, lost, part, rfl, outcome, bytes, remnant⟩ := delivers.split honest
  obtain ⟨records, rest, read, last⟩ := remnant.read_after readable
  refine ⟨delivered, lost, rfl, outcome, ?_⟩
  rw [← transcript_eq] at bytes
  have whole : source.data = encodeAll (transcript timing delivered) ++ part := handed.trans bytes
  rw [← whole] at read
  obtain ⟨found, told⟩ := Receiver.records_of_decodeAll steady read
  generalize (Receiver.start source limit).records = result at found told ⊢
  obtain ⟨_, ending, final⟩ := result
  obtain rfl := found
  obtain rfl := told
  refine ⟨List.prefix_append .., ?_, ?_⟩
  · rw [List.filterMap_append, pictures_transcript]
    rcases last with rfl | ⟨f, later, -, rfl⟩ <;> simp [Record.picture?]
  · cases rest with
    | nil => exact .inl rfl
    | cons => exact .inr rfl

namespace Session

open Link

/-- A session has been opened, after whatever calls, and is not closed by those that follow. Then the
pushes among them come to what they come to in a stream of their own, with the same answers of the pipe
and the same room: their results are the same, they make the same write calls and no other call makes
any, and the encoder becomes the same. The first write call announces the size of the first frame, and a
reader that is given just the bytes of this stream, by a pipe that counts them honestly, finds the frames
that were acknowledged. -/
theorem streams_are_independent (room : Nat → Bool) (path : String) (mode : Nat) (outlet₀ : Outlet)
    (before : List Call) (timing : Timing) (arrival : Arrival) (refuses : Refusals) (tree : FileTree)
    (outlet : Outlet) (between : List Call)
    (opened : ((after room ⟨.start path mode, outlet₀⟩ before).perform room
      (.opens timing arrival refuses tree outlet)).1.failure = none)
    (kept : ∀ c ∈ between, c.isClose = false) :
    let l := after room ⟨.start path mode, outlet₀⟩ (before ++ [.opens timing arrival refuses tree outlet])
    let frames := between.filterMap Call.frame?
    let attempts := session timing room outlet frames
    let writes := (l.reports room between).flatMap Report.calls
    l.pushReports room between = attempts.map .ofAttempt ∧
    writes = attempts.flatMap Attempt.calls ∧
    (l.after room between).session.encoder = some ((Encoder.start timing).after attempts) ∧
    (∀ f later, frames = f :: later →
      ∃ call more, writes = call :: more ∧ call.offer = .single (encodeSize f.size)) ∧
    ∀ limit source, (∀ f ∈ frames, f.Readable limit timing) → (∀ c ∈ writes, c.Honest) →
      source.Steady → source.data = writes.flatMap WriteCall.taken →
      ∃ delivered lost, frames = delivered ++ lost ∧
        (l.pushReports room between).map (fun r => r.failure.isNone) =
          List.replicate delivered.length true ++ List.replicate lost.length false ∧
        let (records, ending, _) := (Receiver.start source limit).records
        transcript timing delivered <+: records ∧
          records.filterMap Record.picture? = delivered.map (Frame.picture timing) ∧
          (ending = none ∨ ending = some (.failed .ended)) := by
  intro l frames attempts writes
  obtain ⟨busy, has, left⟩ := perform_opens opened
  have same : l = ((after room ⟨.start path mode, outlet₀⟩ before).perform room
      (.opens timing arrival refuses tree outlet)).2 := after_append ..
  rw [← same] at busy has left
  -- of all earlier calls nothing is left but an open session with a new encoder
  obtain ⟨results, calls, encoder⟩ := pushes_open busy has room kept
  rw [left] at results calls encoder
  refine ⟨results, calls, encoder, ?_, ?_⟩
  · intro f later first
    obtain ⟨call, more, made, offer⟩ := session_announces timing room outlet f later
    refine ⟨call, more, ?_, offer⟩
    rw [← first] at made
    exact calls.trans made
  · intro limit source readable honest steady handed
    have fair : ∀ a ∈ attempts, a.Honest := by
      intro a mem c made
      apply honest
      rw [show writes = _ from calls]
      exact List.mem_flatMap.2 ⟨a, mem, made⟩
    have bytes : source.data = sent attempts := by
      rw [handed, show writes = _ from calls, List.flatMap_assoc]
      rfl
    obtain ⟨delivered, lost, split, outcome, read⟩ := session_read_alone readable fair steady bytes
    refine ⟨delivered, lost, split, ?_, read⟩
    rw [results, List.map_map, ← outcome]
    apply List.map_congr_left
    intro a _
    exact Option.isNone_map

/-- A push that comes too early, a stream that ends because its reader has gone, and an attempt to open
that fails for want of a reader. -/
def firstStream : List Call :=
  [.pushes Receiver.flatFrame, .opens Receiver.ntscTiming { inode := 0 } granted {} .abandoned,
    .pushes Receiver.flatFrame, .pushes Receiver.flatFrame, .closes granted {},
    .opens Receiver.ntscTiming { inode := 1, refusal := some (.bare .other) } granted {} .unlimited]

/-- Two frames of one size, and between them an attempt to open the session that is open. -/
def secondStream : List Call :=
  [.pushes Receiver.flatFrame, .opens Receiver.ntscTiming { inode := 2 } granted {} .abandoned,
    .pushes Receiver.flatFrame]

/-- A size that was announced in the first stream is announced again in the second. -/
theorem streams_are_independent_again :
    let s : Link := ⟨.start "f.fifo" Owner.standardMode, .unlimited⟩
    let opening : Call := .opens ⟨.microseconds, .towardZero⟩ { inode := 3 } granted {} .unlimited
    let l := s.after Encoder.plenty (firstStream ++ [opening])
    ((s.after Encoder.plenty firstStream).perform Encoder.plenty opening).1.failure = none ∧
      l.pushReports Encoder.plenty secondStream =
        (session ⟨.microseconds, .towardZero⟩ Encoder.plenty .unlimited
          [Receiver.flatFrame, Receiver.flatFrame]).map .ofAttempt ∧
      ∃ call more, (l.reports Encoder.plenty secondStream).flatMap Report.calls = call :: more ∧
        call.offer = .single (encodeSize ⟨3, 1⟩) := by
  have opened : ((after Encoder.plenty ⟨.start "f.fifo" Owner.standardMode, .unlimited⟩ firstStream).perform
      Encoder.plenty (.opens ⟨.microseconds, .towardZero⟩ { inode := 3 } granted {} .unlimited)).1.failure =
        none := by decide
  obtain ⟨results, -, -, announced, -⟩ := streams_are_independent Encoder.plenty "f.fifo" Owner.standardMode
    .unlimited firstStream ⟨.microseconds, .towardZero⟩ { inode := 3 } granted {} .unlimited secondStream
    opened (by decide)
  have handed : secondStream.filterMap Call.frame? = [Receiver.flatFrame, Receiver.flatFrame] := rfl
  rw [handed] at results
  exact ⟨opened, results, announced Receiver.flatFrame [Receiver.flatFrame] handed⟩

end Session

end PlanarPipe
