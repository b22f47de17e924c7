import Mathlib.Data.List.SplitBy
import PlanarPipe.Proofs.Wire.Grammar
import PlanarPipe.Video.Timing

/-!
# The records of a session

What a session of frames is to look like in the stream is said in two ways. `transcript` says it for
the reader: before each maximal run of frames of one size stands an announcement of it. `script` says it
for the writer, frame by frame: a frame is announced if its size is not the one announced last.
`transcript_eq` shows that the two are the same, and `script_wellFormed` that a reader takes them.
-/

namespace PlanarPipe

open Wire

/-- The picture in a record, if there is one. -/
def Record.picture? : Record → Option Picture
  | announcement _ => none
  | picture p => some p

namespace Frame

def sameSize (f g : Frame) : Bool := f.size == g.size

/-- A frame as it stands in a stream. -/
def picture (timing : Timing) (f : Frame) : Picture := ⟨timing.stamp f.pts, f.size, f.pixels⟩

/-- The records of one frame where `current` was announced last. -/
def records (timing : Timing) (current : Option Size) (f : Frame) : List Record :=
  if current = some f.size then [.picture (f.picture timing)]
  else [.announcement f.size, .picture (f.picture timing)]

end Frame

/-- The records of some frames where `current` was announced last. -/
def script (timing : Timing) : Option Size → List Frame → List Record
  | _, [] => []
  | current, f :: frames => f.records timing current ++ script timing (some f.size) frames

/-- Frames of one size, announced once. -/
def sendRun (timing : Timing) : List Frame → List Record
  | [] => []
  | f :: frames => .announcement f.size :: (f :: frames).map fun g => .picture (g.picture timing)

/-- The records of a session: each maximal run of frames of one size is announced. -/
def transcript (timing : Timing) (frames : List Frame) : List Record :=
  (frames.splitBy Frame.sameSize).flatMap (sendRun timing)

variable {timing : Timing} {current : Option Size} {frames : List Frame} {f : Frame} {limit : Nat}

/-- The size that holds after two streams is found stream by stream. -/
lemma sizeAfterAll_append (current : Option Size) (records later : List Record) :
    sizeAfterAll current (records ++ later) = sizeAfterAll (sizeAfterAll current records) later :=
  List.foldl_append

/-- After the records of a frame its size holds. -/
lemma Frame.sizeAfterAll_records : sizeAfterAll current (f.records timing current) = some f.size := by
  rw [Frame.records]
  split
  case isTrue same => exact same
  case isFalse => rfl

/-- Which size holds after a script depends on what was announced before only up to the first frame. -/
lemma sizeAfterAll_script_cons (f : Frame) (frames : List Frame) :
    sizeAfterAll current (script timing current (f :: frames)) =
      sizeAfterAll (some f.size) (script timing (some f.size) frames) := by
  rw [script, sizeAfterAll_append, Frame.sizeAfterAll_records]

/-- Only the size announced last ties what follows to what came before. -/
lemma script_append (frames later : List Frame) :
    script timing current (frames ++ later) =
      script timing current frames ++
        script timing (sizeAfterAll current (script timing current frames)) later := by
  induction frames generalizing current with
  | nil => rfl
  | cons f frames ih =>
    rw [List.cons_append, script, ih, sizeAfterAll_script_cons, script, List.append_assoc]

/-- A run of the size announced last is sent without an announcement. -/
lemma script_run {later : List Frame} (run : (f :: frames).IsChain fun f g => f.sameSize g) :
    script timing (some f.size) (frames ++ later) =
      (frames.map fun g => .picture (g.picture timing)) ++ script timing (some f.size) later := by
  induction frames generalizing f with
  | nil => rfl
  | cons g frames ih =>
    obtain ⟨same, run⟩ := List.isChain_cons_cons.1 run
    have same : f.size = g.size := eq_of_beq same
    rw [List.cons_append, script, Frame.records, if_pos (congrArg some same), same, ih run]
    rfl

/-- Frames of the size that was announced last are sent as pictures alone. -/
lemma script_uniform {size : Size} (same : ∀ f ∈ frames, f.size = size) :
    script timing (some size) frames = frames.map fun f => .picture (f.picture timing) := by
  induction frames with
  | nil => rfl
  | cons f frames ih =>
    obtain ⟨first, later⟩ := List.forall_mem_cons.1 same
    rw [script, Frame.records, if_pos (congrArg some first.symm), first, ih later]
    rfl

/-- The last frame of a run has the size of the first. -/
lemma size_getLast (run : (f :: frames).IsChain fun f g => f.sameSize g) :
    ((f :: frames).getLast (List.cons_ne_nil f frames)).size = f.size := by
  induction frames generalizing f with
  | nil => rfl
  | cons g frames ih =>
    obtain ⟨same, run⟩ := List.isChain_cons_cons.1 run
    have same : f.size = g.size := eq_of_beq same
    rw [List.getLast_cons_cons, ih run, same]

/-- Runs are announced one by one, where none of them has the size announced before it. -/
lemma script_flatten {runs : List (List Frame)} (nonempty : [] ∉ runs)
    (same : ∀ run ∈ runs, run.IsChain fun f g => f.sameSize g)
    (differ : runs.IsChain fun a b => ∃ ha hb, (a.getLast ha).sameSize (b.head hb) = false)
    (fresh : ∀ f frames later, runs = (f :: frames) :: later → current ≠ some f.size) :
    script timing current runs.flatten = runs.flatMap (sendRun timing) := by
  induction runs generalizing current with
  | nil => rfl
  | cons run runs ih =>
    cases run with
    | nil => exact (nonempty (List.mem_cons_self ..)).elim
    | cons f frames =>
      have run := same _ (List.mem_cons_self ..)
      -- the runs that follow are sent after this one, whose size the next of them does not have
      have next : ∀ g rest later, runs = (g :: rest) :: later → some f.size ≠ some g.size := by
        rintro g rest later rfl same
        obtain ⟨_, _, other⟩ := (List.isChain_cons_cons.1 differ).1
        rw [Frame.sameSize, size_getLast run, List.head_cons, Option.some.inj same] at other
        simp at other
      have later := ih (fun mem => nonempty (List.mem_cons_of_mem _ mem))
        (fun run mem => same run (List.mem_cons_of_mem _ mem)) differ.tail next
      rw [List.flatten_cons, List.cons_append, script, Frame.records,
        if_neg (fresh f frames runs rfl), script_run run, later, List.flatMap_cons, sendRun]
      simp

/-- The writer's account of a session is the reader's. -/
lemma transcript_eq (timing : Timing) (frames : List Frame) :
    transcript timing frames = script timing none frames := by
  have runs : script timing none (frames.splitBy Frame.sameSize).flatten =
      transcript timing frames := by
    apply script_flatten
    · exact List.nil_notMem_splitBy Frame.sameSize frames
    · exact fun _ => List.isChain_of_mem_splitBy
    · exact List.isChain_getLast_head_splitBy Frame.sameSize frames
    · exact fun _ _ _ _ => nofun
  rw [← runs, List.flatten_splitBy]

/-- A reader with the given limit takes the frame for what it is. -/
structure Frame.Readable (limit : Nat) (timing : Timing) (f : Frame) : Prop where
  held : f.Addressable
  within : f.size.frameBytes ≤ limit
  untagged : ¬Tagged (timing.stamp f.pts)

/-- What a readable frame is sent as fits where its size has been announced. -/
lemma Frame.Readable.fits (readable : f.Readable limit timing) :
    (Record.picture (f.picture timing)).Fits (some f.size) limit := by
  have exact := Frame.frameBytes_eq readable.held
  have within := readable.within
  exact .picture rfl (Frame.length_pixels readable.held) (by omega) readable.untagged

/-- The records of frames whose pictures fit are well-formed. -/
lemma script_wellFormed_of_fits
    (fit : ∀ f ∈ frames, (Record.picture (f.picture timing)).Fits (some f.size) limit) :
    WellFormed limit current (script timing current frames) := by
  induction frames generalizing current with
  | nil => exact .nil
  | cons f frames ih =>
    have fits := fit f (List.mem_cons_self ..)
    have later : WellFormed limit (some f.size) (script timing (some f.size) frames) :=
      ih fun g mem => fit g (List.mem_cons_of_mem _ mem)
    rw [script, Frame.records]
    split
    case isTrue same =>
      subst same
      exact .cons fits later
    case isFalse => exact .cons (.announcement f.size_ne) (.cons fits later)

/-- The records of readable frames are well-formed. -/
lemma script_wellFormed (readable : ∀ f ∈ frames, f.Readable limit timing) :
    WellFormed limit current (script timing current frames) :=
  script_wellFormed_of_fits fun f mem => (readable f mem).fits

/-- The records of a frame that memory holds have lengths that can be counted. -/
lemma Frame.records_counted (held : f.Addressable) :
    ∀ r ∈ f.records timing current, r.encode.length ≤ Bytes.maxWord := by
  have announced : (Record.announcement f.size).encode.length ≤ Bytes.maxWord := by
    rw [Record.encode, length_encodeSize]
    decide
  have sent : (Record.picture (f.picture timing)).encode.length ≤ Bytes.maxWord := by
    rw [Record.encode, List.length_append, length_encodeStamp, Frame.picture, length_pixels held]
    exact exactBytes_le held
  rw [records]
  split
  · simpa using sent
  · simpa using ⟨announced, sent⟩

/-- The records of frames that memory holds have lengths that can be counted. -/
lemma script_counted (held : ∀ f ∈ frames, f.Addressable) :
    ∀ r ∈ script timing current frames, r.encode.length ≤ Bytes.maxWord := by
  induction frames generalizing current with
  | nil => exact List.forall_mem_nil _
  | cons f frames ih =>
    intro r mem
    rcases List.mem_append.1 mem with mem | mem
    · exact Frame.records_counted (held f (List.mem_cons_self ..)) r mem
    · exact ih (fun g mem => held g (List.mem_cons_of_mem _ mem)) r mem

/-- Each frame is sent as a picture. -/
lemma picture_mem_script (mem : f ∈ frames) :
    .picture (f.picture timing) ∈ script timing current frames := by
  induction frames generalizing current with
  | nil => cases mem
  | cons g frames ih =>
    rw [script, List.mem_append]
    cases mem with
    | head =>
      left
      rw [Frame.records]
      split <;> simp
    | tail _ mem => exact .inr (ih mem)

/-- The pictures of a script are those of its frames, in order. -/
lemma pictures_script :
    (script timing current frames).filterMap Record.picture? = frames.map (Frame.picture timing) := by
  induction frames generalizing current with
  | nil => rfl
  | cons f frames ih =>
    rw [script, List.filterMap_append, ih, Frame.records]
    split <;> rfl

/-- The pictures of a transcript are those of its frames. -/
lemma pictures_transcript :
    (transcript timing frames).filterMap Record.picture? = frames.map (Frame.picture timing) := by
  rw [transcript_eq, pictures_script]

end PlanarPipe
