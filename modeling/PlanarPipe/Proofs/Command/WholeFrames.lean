import PlanarPipe.Proofs.Command.Refilling
import PlanarPipe.Proofs.Command.Sending
import PlanarPipe.Proofs.Fifo.Refusal
import PlanarPipe.Proofs.Stream.RoundTrip
import PlanarPipe.Proofs.Video.Rescaling
import PlanarPipe.Proofs.Video.Splitting

/-!
# The whole frames of a raw file

A file is sent frame by frame until too few bytes are left for another one. The frames are cut out of it one behind
the other (`RawFile.Cuts`), and sending the file is pushing them in one session (`RawFile.Cuts.sends`). Where the
reader takes everything, its size is announced once, if there is a frame, and then follow the frames with the time
stamps of their numbers; what is left at the end of the file is not sent. Main statement:
`RawFile.run_sends_whole_frames`.
-/

namespace PlanarPipe

open Wire

namespace RawFile

namespace Job

/-- What the program can be asked to send. The bytes of a file are counted in a signed word. -/
structure Valid (job : Job) (data : Bytes) : Prop where
  sides : job.size.width ≠ 0 ∧ job.size.height ≠ 0
  rate : 0 < job.fps
  counted : data.length ≤ Bytes.maxSlice

variable (job : Job) (data : Bytes)

/-- How many frames a file holds. -/
def count : Nat := data.length / job.size.frameBytes

/-- What is left of a file after so many frames. -/
def rest (index : Nat) : Bytes := data.drop (index * job.size.frameBytes)

/-- The bytes of a frame. -/
def chunk (index : Nat) : Bytes := (job.rest data index).take job.size.frameBytes

/-- The time stamp of a frame, in whole microseconds from the first one. -/
def due (index : Nat) : Int64 := .ofInt (min (index * 1000000 / job.fps.toInt) Int64.maxValue.toInt)

def pictureAt (index : Nat) : Picture where
  stamp := job.due index
  size := job.size
  payload := job.chunk data index

/-- The records of a file. If it is too short for a frame there are none. -/
def records : List Record :=
  if job.count data = 0 then []
  else .announcement job.size :: (List.range (job.count data)).map fun index => .picture (job.pictureAt data index)

end Job

variable {job : Job} {data : Bytes}

/-- The frames from one of them on that are cut out of a file. -/
inductive Cuts (job : Job) (data : Bytes) : Nat → List Frame → Prop where
  /-- Too few bytes are left. -/
  | spent {index} :
    (job.rest data index).length < job.size.frameBytes →
    Cuts job data index []
  | frame {index f frames} :
    ¬ (job.rest data index).length < job.size.frameBytes →
    Frame.ofPacked job.size (job.chunk data index) (some (Int64.ofNat index)) = .ok f →
    Cuts job data (index + 1) frames →
    Cuts job data index (f :: frames)

/-- Without the bytes of a frame the rest is that from the next frame on. -/
lemma Job.drop_rest (job : Job) (data : Bytes) (index : Nat) :
    (job.rest data index).drop job.size.frameBytes = job.rest data (index + 1) := by
  rw [rest, rest, List.drop_drop, Nat.succ_mul]

namespace Job.Valid

variable (valid : job.Valid data)

include valid

/-- The frames have pixels. -/
lemma pixels : job.size.isEmpty = false := Size.isEmpty_eq_false_iff.2 valid.sides

/-- A frame takes some bytes. -/
lemma frameBytes_pos : 0 < job.size.frameBytes := Size.frameBytes_pos valid.pixels

def timing : Timing := { base := ⟨1, job.fps, StreamTask.one_pos, valid.rate⟩, rounding := .standard }

/-- Memory does not hold so many frames that their numbers are out of range. -/
lemma small_of_long {index : Nat} (long : ¬ (job.rest data index).length < job.size.frameBytes) : index < 2 ^ 63 := by
  have some := valid.frameBytes_pos
  have least : index ≤ index * job.size.frameBytes := Nat.le_mul_of_pos_right index some
  have counted : data.length < 2 ^ 63 := Nat.lt_succ_of_le valid.counted
  rw [rest, List.length_drop] at long
  omega

/-- A frame is stamped with the time at which it is due. -/
lemma stamp_eq {index : Nat} (small : index < 2 ^ 63) :
    valid.timing.stamp (some (Int64.ofNat index)) = job.due index :=
  valid.timing.base.micros_rate rfl small

/-- As long as there are enough bytes a frame is made of them, which is sent as they are. -/
lemma exists_frame {index : Nat} (long : ¬ (job.rest data index).length < job.size.frameBytes) :
    ∃ f, Frame.ofPacked job.size (job.chunk data index) (some (Int64.ofNat index)) = .ok f ∧ f.Addressable ∧
      f.size = job.size ∧ f.picture valid.timing = job.pictureAt data index := by
  have whole : (job.chunk data index).length = job.size.frameBytes := by
    rw [chunk, List.length_take, Nat.min_eq_left (Nat.not_lt.1 long)]
  have held : (job.chunk data index).length ≤ Bytes.maxSlice := by
    refine Nat.le_trans ?_ valid.counted
    rw [chunk, rest, List.length_take, List.length_drop]
    omega
  have enough := (Frame.passes_iff held).1 (Nat.not_lt.2 (Nat.le_of_eq whole.symm))
  obtain ⟨f, made, size, pts, pixels, -⟩ := Frame.exists_ofPacked valid.pixels enough (some (Int64.ofNat index))
  refine ⟨f, made, Frame.addressable_of_ofPacked held made, size, ?_⟩
  have all : (job.chunk data index).length ≤ job.size.exactBytes := by
    rw [whole, Size.frameBytes_eq]
    exact Nat.min_le_left ..
  rw [Frame.picture, pictureAt, pts, valid.stamp_eq (valid.small_of_long long), size, pixels,
    List.take_of_length_le all]

/-- Every file is cut into frames. -/
lemma exists_cuts (index : Nat) : ∃ frames, Cuts job data index frames := by
  induction left : (job.rest data index).length using Nat.strongRecOn generalizing index with
  | ind _ ih =>
    by_cases short : (job.rest data index).length < job.size.frameBytes
    · exact ⟨[], .spent short⟩
    · obtain ⟨f, made, -⟩ := valid.exists_frame short
      have fewer : (job.rest data (index + 1)).length < (job.rest data index).length := by
        rw [← drop_rest, List.length_drop]
        exact Nat.sub_lt_of_pos_le valid.frameBytes_pos (Nat.not_lt.1 short)
      obtain ⟨frames, later⟩ := ih _ (left ▸ fewer) (index + 1) rfl
      exact ⟨f :: frames, .frame short made later⟩

end Job.Valid

namespace Cuts

variable {index : Nat} {frames : List Frame} (cuts : Cuts job data index frames) (valid : job.Valid data)

include cuts valid

/-- As many frames are cut out of a file as it holds. -/
lemma length_eq (inside : index * job.size.frameBytes ≤ data.length) : index + frames.length = job.count data := by
  have some := valid.frameBytes_pos
  induction cuts with
  | @spent index short =>
    rw [Job.rest, List.length_drop] at short
    refine (Nat.div_eq_of_lt_le inside ?_).symm
    rw [Nat.succ_mul]
    omega
  | @frame index f frames long _ _ ih =>
    rw [Job.rest, List.length_drop] at long
    have next : (index + 1) * job.size.frameBytes ≤ data.length := by
      rw [Nat.succ_mul]
      omega
    rw [List.length_cons, ← ih next]
    omega

/-- The frames stand in the stream as they stand in the file. -/
lemma pictures_eq : frames.map (fun f => Record.picture (f.picture valid.timing)) =
    (List.range' index frames.length).map fun index => .picture (job.pictureAt data index) := by
  induction cuts with
  | spent => rfl
  | frame long made _ ih =>
    obtain ⟨g, same, -, -, picture⟩ := valid.exists_frame long
    obtain rfl := Except.ok.inj (made.symm.trans same)
    rw [List.map_cons, List.length_cons, List.range'_succ, List.map_cons, picture, ih]

/-- Every frame has the size that was asked for, and memory holds it. -/
lemma frame_facts : ∀ f ∈ frames, f.size = job.size ∧ f.Addressable := by
  induction cuts with
  | spent => exact List.forall_mem_nil _
  | frame long made _ ih =>
    obtain ⟨g, same, held, size, -⟩ := valid.exists_frame long
    obtain rfl := Except.ok.inj (made.symm.trans same)
    exact List.forall_mem_cons.2 ⟨⟨size, held⟩, ih⟩

end Cuts

/-- The size is announced before the first frame, and then all frames have it. -/
lemma Cuts.script_eq {frames : List Frame} (cuts : Cuts job data 0 frames) (valid : job.Valid data) :
    script valid.timing none frames = job.records data := by
  have count := cuts.length_eq valid (by omega)
  have pictures := cuts.pictures_eq valid
  have facts := cuts.frame_facts valid
  rw [Nat.zero_add] at count
  rw [count, ← List.range_eq_range'] at pictures
  rw [Job.records, ← pictures, ← count]
  cases frames with
  | nil => rfl
  | cons f frames =>
    obtain ⟨⟨size, -⟩, later⟩ := List.forall_mem_cons.1 facts
    rw [script, Frame.records, if_neg (Option.some_ne_none _).symm, size,
      script_uniform fun g mem => (later g mem).1, List.length_cons, if_neg (Nat.succ_ne_zero _), List.map_cons]
    rfl

/-- Sending comes to the pushes of some frames from `index` on, told from the attempts of a session that pushes all
of them. -/
structure Sends (index : Nat) (attempts : List Attempt) (r : Sending) : Prop where
  calls : r.calls = attempts.flatMap Attempt.calls
  halt : r.halt = (attempts.findSome? Attempt.failure).elim .spent fun cause => .unsent (.encode cause)
  frames : r.frames = index + attempts.countP fun a => a.failure.isNone

/-- An open session pushes a frame with its encoder. -/
lemma pushThen_open {s : Session} {e : Encoder} (busy : s.isOpen = true) (has : s.encoder = some e) (index : Nat)
    (f : Frame) (outlet : Outlet) (later : Session → Outlet → Sending) :
    let a := e.pushWithin Encoder.plenty f outlet
    let pushed : Session := { s with encoder := some a.encoder }
    pushThen index s outlet (.ok f) later =
      match a.failure with
      | some cause => { session := pushed, halt := .unsent (.encode cause), frames := index, calls := a.calls }
      | none =>
        let later := later pushed a.outlet
        { later with calls := a.calls ++ later.calls } := by
  have pushed := Session.pushWithin_open busy has Encoder.plenty f outlet
  simp only [pushThen, Session.push, pushed]
  cases (e.pushWithin Encoder.plenty f outlet).failure with
  | none | some => rfl

/-- Sending what is left of a file is pushing the frames that are cut out of it. -/
lemma Cuts.sends {index : Nat} {frames : List Frame} (cuts : Cuts job data index frames) (valid : job.Valid data)
    {s : Session} {e : Encoder} (busy : s.isOpen = true) (has : s.encoder = some e) (going : e.stopped = false)
    (outlet : Outlet) :
    Sends index (e.pushAll Encoder.plenty outlet frames) (send job.size index s outlet (job.rest data index)) := by
  induction cuts generalizing s e outlet with
  | spent short =>
    rw [send_short _ _ _ _ short]
    exact ⟨rfl, rfl, rfl⟩
  | @frame index f frames long made _ ih =>
    obtain ⟨g, same, held, -⟩ := valid.exists_frame long
    obtain rfl := Except.ok.inj (made.symm.trans same)
    rw [send_long _ _ _ _ long, ← Job.chunk, made, pushThen_open busy has, Job.drop_rest]
    dsimp only
    cases outcome : (e.pushWithin Encoder.plenty f outlet).failure with
    | none =>
      have stops := (Encoder.push_performs Encoder.plenty outlet held.exact going).2.2
      rw [outcome] at stops
      obtain ⟨calls, halt, count⟩ := Encoder.pushAll_acknowledged frames outcome
      -- the rest is sent with what the encoder has become
      have later := ih (s := { s with encoder := some _ }) busy rfl stops (e.pushWithin Encoder.plenty f outlet).outlet
      refine ⟨?_, ?_, ?_⟩
      · rw [calls, ← later.calls]
      · rw [halt]
        exact later.halt
      · rw [count, later.frames]
        omega
    | some cause =>
      obtain ⟨calls, halt, count⟩ := Encoder.pushAll_failed frames held going outcome
      refine ⟨calls.symm, ?_, ?_⟩
      · rw [halt]
        rfl
      · rw [count]
        rfl

/-- A reader whose limit is not below the size of a frame takes the frames of a file for what they are. -/
lemma Cuts.readable {frames : List Frame} {limit : Nat} (cuts : Cuts job data 0 frames) (valid : job.Valid data)
    (within : job.size.frameBytes ≤ limit) (untagged : ∀ index < job.count data, ¬Tagged (job.due index)) :
    ∀ f ∈ frames, f.Readable limit valid.timing := by
  have count := cuts.length_eq valid (by omega)
  rw [Nat.zero_add] at count
  intro f member
  obtain ⟨size, held⟩ := cuts.frame_facts valid f member
  refine ⟨held, size ▸ within, ?_⟩
  have picture : Record.picture (f.picture valid.timing) ∈ frames.map fun f => .picture (f.picture valid.timing) :=
    List.mem_map_of_mem member
  rw [cuts.pictures_eq valid, count, ← List.range_eq_range', List.mem_map] at picture
  obtain ⟨index, inside, same⟩ := picture
  change ¬Tagged (f.picture valid.timing).stamp
  rw [← Record.picture.inj same]
  exact untagged index (List.mem_range.1 inside)

/-- The bytes of the frames, one after the other, are the front of the file. -/
lemma flatMap_chunk (job : Job) (data : Bytes) (count : Nat) :
    (List.range count).flatMap (job.chunk data) = data.take (count * job.size.frameBytes) := by
  induction count with
  | zero => rw [Nat.zero_mul, List.take_zero, List.range_zero, List.flatMap_nil]
  | succ count ih =>
    rw [List.range_succ, List.flatMap_append, ih, List.flatMap_singleton, Nat.succ_mul, List.take_add]
    rfl

/-- There are no records where there are too few bytes for a frame. -/
lemma Job.records_of_short (short : data.length < job.size.frameBytes) : job.records data = [] :=
  if_pos (Nat.div_eq_of_lt short)

/-- The size is announced once, and then come all pictures. -/
lemma Job.Valid.records_of_long (valid : job.Valid data) (long : job.size.frameBytes ≤ data.length) :
    job.records data = .announcement job.size ::
      (List.range (job.count data)).map fun index => .picture (job.pictureAt data index) :=
  if_neg (Nat.ne_of_gt (Nat.div_pos long valid.frameBytes_pos))

/-- The program is given a file with these bytes, and a reader comes to its pipe. -/
structure Ready (w : World) (env : List (String × String)) (words : List String) (job : Job) (data : Bytes) :
    Prop where
  asked : Job.ofWords words = .ok job
  file : ∃ stamp, (w.scene 0).openToRead job.input true = .ok (.file stamp) ∧ (w.scene 0).contentsOf stamp = data
  reader : ((Owner.start (pipePath (directory env)) Owner.standardMode).openFifo w.arrival (w.scene 0)).failure = none

variable {w : World} {env : List (String × String)} {words : List String}

/-- The program sends the file in a session with a new encoder, and tells how that ended. -/
lemma Ready.run_eq (ready : Ready w env words job data) (valid : job.Valid data) :
    let path := pipePath (directory env)
    let opened := (Session.start path Owner.standardMode).openStream valid.timing w.arrival (w.scene 0)
    let sending := send job.size 0 opened.session w.outlet data
    let r := run w env words
    opened.session.isOpen = true ∧ opened.session.encoder = some (.start valid.timing) ∧
      r.code = sending.verdict.2 ∧ r.notes = [s!"Waiting for a reader on {path}", sending.verdict.1] ∧
      r.sent = sending.calls.flatMap WriteCall.taken := by
  obtain ⟨asked, ⟨stamp, opens, rfl⟩, reader⟩ := ready
  intro path opened sending r
  have base : TimeBase.build 1 job.fps = .ok valid.timing.base := dif_pos ⟨StreamTask.one_pos, valid.rate⟩
  obtain ⟨owner, place, makes⟩ := Owner.openFifoWithin_makes Refusals.lenient_granted reader
  obtain ⟨alive, session, tree⟩ : opened.failure = none ∧ opened.session = ⟨_, some (.start valid.timing)⟩ ∧
      opened.tree = _ := Session.openStreamWithin_alive valid.timing reader
  have contents : opened.tree.contents = (w.scene 0).contents := tree ▸ makes.contents
  have given : sendFile job opened.session w.outlet opened.tree { object := .file stamp } = sending := by
    rw [sendFile, OpenFile.rest]
    simp only [FileTree.contentsOf, contents, List.drop_zero]
    rfl
  have same : (Session.start (pipePath (directory env)) Owner.standardMode).openStream
      { base := valid.timing.base } w.arrival (w.scene 0) = opened := rfl
  refine ⟨?_, by rw [session], ?_⟩
  · rw [session]
    exact congrArg Owner.isOpen owner
  · simp only [r, run, asked, opens, base, same, alive, given, true_and, and_true]
    rfl

/-- To a reader that takes everything all frames of a file are sent. -/
lemma send_unlimited (valid : job.Valid data) {s : Session} (busy : s.isOpen = true)
    (has : s.encoder = some (.start valid.timing)) :
    let sending := send job.size 0 s .unlimited data
    sending.halt = .spent ∧ sending.frames = job.count data ∧
      sending.calls.flatMap WriteCall.taken = encodeAll (job.records data) := by
  obtain ⟨frames, cuts⟩ := valid.exists_cuts 0
  have count := cuts.length_eq valid (by omega)
  have held : ∀ f ∈ frames, f.Addressable := fun f member => (cuts.frame_facts valid f member).2
  have acknowledged := fullSession_acknowledged valid.timing held
  have sends := cuts.sends valid busy has rfl .unlimited
  rw [Job.rest, Nat.zero_mul, List.drop_zero] at sends
  change Sends 0 (fullSession valid.timing frames) _ at sends
  refine ⟨sends.halt.trans ?_, sends.frames.trans ?_, ?_⟩
  · rw [List.findSome?_eq_none_iff.2 fun a member => (acknowledged a member).1]
    rfl
  · rw [← count, List.countP_eq_length.2 fun a member => Option.isNone_iff_eq_none.2 (acknowledged a member).1,
      fullSession, session, Encoder.length_pushAll]
  · rw [sends.calls, List.flatMap_assoc, ← cuts.script_eq valid, ← transcript_eq]
    exact sent_fullSession valid.timing held

/-- The records of a file are read back. -/
lemma decodeAll_records {limit : Nat} (valid : job.Valid data) (within : job.size.frameBytes ≤ limit)
    (untagged : ∀ index < job.count data, ¬Tagged (job.due index)) :
    decodeAll (encodeAll (job.records data)) none limit = (job.records data, .more []) := by
  obtain ⟨frames, cuts⟩ := valid.exists_cuts 0
  have readable := cuts.readable valid within untagged
  have read := decodeAll_encodeAll (@script_wellFormed _ none _ _ readable)
    (script_counted fun f member => (readable f member).held) []
  rwa [List.append_nil, decodeAll_nil, List.append_nil, cuts.script_eq valid] at read

/-- The program sends the whole frames of its file, and nothing of what is left behind them, to a reader that takes
everything: as many frames as the size goes into the length of the file, with the time stamps of their numbers, and
before the first of them an announcement. Of a file that is too short for a frame nothing is sent. Where there can
be a buffer for a frame, the program ends well and tells the number of frames. It makes no difference how the bytes
of the file come, and what is in the buffer that they are read into. A reader whose limit is not below the size of a
frame reads just these records, however they are handed out, unless a time stamp looks like the start of an
announcement. -/
theorem run_sends_whole_frames (valid : job.Valid data) (ready : Ready w env words job data)
    (unlimited : w.outlet = .unlimited) :
    let r := run w env words
    let bytes := job.size.frameBytes
    let count := data.length / bytes
    let path := pipePath (directory env)
    let opened := (Session.start path Owner.standardMode).openStream valid.timing w.arrival (w.scene 0)
    r.sent = encodeAll (job.records data) ∧
      (data.length < bytes → r.sent = []) ∧
      (bytes ≤ data.length → job.records data =
        .announcement job.size :: (List.range count).map fun index => .picture (job.pictureAt data index)) ∧
      (List.range count).flatMap (fun index => (job.pictureAt data index).payload) = data.take (count * bytes) ∧
      (bytes ≤ Bytes.maxSlice → r.code = 0 ∧ r.notes =
        [s!"Waiting for a reader on {path}", s!"End of input after {count} frames: failed to fill whole buffer"]) ∧
      (∀ buffer answers, buffer.length = bytes →
        let sending := sendThrough job.size 0 opened.session w.outlet buffer { left := data, answers }
        sending.halt = .spent ∧ sending.frames = count ∧ sending.calls.flatMap WriteCall.taken = r.sent) ∧
      ∀ limit, bytes ≤ limit → (∀ index < count, ¬Tagged (job.due index)) →
        decodeAll r.sent none limit = (job.records data, .more []) ∧
          ∀ source : Source, source.Steady → source.data = r.sent →
            (Receiver.start source limit).records.1 = job.records data ∧
              (Receiver.start source limit).records.2.1 = none := by
  intro r bytes count path opened
  obtain ⟨busy, encoder, code, notes, sent⟩ := ready.run_eq valid
  obtain ⟨spent, frames, taken⟩ := send_unlimited valid busy encoder
  rw [unlimited] at code notes sent
  have whole : r.sent = encodeAll (job.records data) := sent.trans taken
  refine ⟨whole, fun short => ?_, valid.records_of_long, flatMap_chunk job data count, fun _ => ?_, ?_, ?_⟩
  · rw [whole, Job.records_of_short short]
    rfl
  · rw [Sending.verdict, spent, frames] at code notes
    exact ⟨code, notes⟩
  · intro buffer answers fits
    rw [unlimited, sendThrough_eq fits]
    exact ⟨spent, frames, sent.symm⟩
  · intro limit within untagged
    have decodes : decodeAll r.sent none limit = (job.records data, .more []) :=
      (congrArg (decodeAll · none limit) whole).trans (decodeAll_records valid within untagged)
    exact ⟨decodes, fun source steady handed => Receiver.records_of_decodeAll steady (handed ▸ decodes)⟩

/-- A file of two frames of two by two pixels, and three bytes behind them. -/
def twoFrames : Bytes := [1, 2, 3, 4, 5, 6, 7, 8, 9, 10, 11, 12, 13, 14, 15]

/-- The file has the name `in.yuv`, and a reader comes and takes everything. -/
def twoFramesWorld : World where
  scene := fun _ => { entries := [(["in.yuv"], .file 0)], contents := [(0, twoFrames)], births := 1 }
  arrival := { inode := 0 }
  patience := 0
  host := ⟨"", "", ""⟩

/-- Two frames and three bytes are a job that can be asked for. -/
lemma valid_twoFrames : Job.Valid ⟨"in.yuv", ⟨2, 2⟩, 25⟩ twoFrames := ⟨by decide, by decide, by decide⟩

/-- The file is there, and a reader comes. -/
lemma ready_twoFrames :
    Ready twoFramesWorld [("TMPDIR", "")] ["in.yuv", "2", "2", "25"] ⟨"in.yuv", ⟨2, 2⟩, 25⟩ twoFrames :=
  ⟨by decide, ⟨0, by decide, rfl⟩, by decide⟩

/-- Both frames are sent, the second with a time stamp of one 25th of a second, and the three bytes are not. -/
theorem run_sends_whole_frames_rest :
    let r := run twoFramesWorld [("TMPDIR", "")] ["in.yuv", "2", "2", "25"]
    r.code = 0 ∧ decodeAll r.sent none standardLimit =
      ([.announcement ⟨2, 2⟩, .picture ⟨0, ⟨2, 2⟩, [1, 2, 3, 4, 5, 6]⟩,
        .picture ⟨40000, ⟨2, 2⟩, [7, 8, 9, 10, 11, 12]⟩], .more []) := by
  intro r
  obtain ⟨-, -, -, -, told, -, decodes⟩ := run_sends_whole_frames valid_twoFrames ready_twoFrames rfl
  exact ⟨(told (by decide)).1, (decodes standardLimit (by decide) (by decide)).1.trans (by decide)⟩

end RawFile

end PlanarPipe
