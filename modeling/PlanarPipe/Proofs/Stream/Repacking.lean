import PlanarPipe.Proofs.Video.Extent
import PlanarPipe.Stream.Encoder

/-!
# Frames put together in a buffer

The rows of a padded frame are laid one after the other over the front of a buffer that was used
before: the buffer then starts with the rows, and goes on with what it held behind them (`Encoder.toList_lay`).
What is sent is the front of the buffer: exactly the rows, and nothing of what the buffer held
(`Encoder.toList_laid`). An attempt to write the frame either finds no room for this, or sends that front
(`Attempt.payloadLaid_cases`).
-/

namespace PlanarPipe

namespace Encoder

variable {buffer : Array UInt8} {start size : Nat} {bytes : Bytes} {rows : List Bytes}

/-- Bytes written over a buffer take the place of as many that were there, and touch no others. -/
lemma toList_overwrite {before old after : Bytes} (held : buffer.toList = before ++ (old ++ after))
    (long : old.length = bytes.length) :
    (overwrite buffer before.length bytes).toList = before ++ (bytes ++ after) := by
  induction bytes generalizing buffer before old with
  | nil =>
    obtain rfl := List.length_eq_zero_iff.1 long
    exact held
  | cons b bytes ih =>
    cases old with
    | nil => cases long
    | cons o old =>
      -- the byte that is written joins those before, and takes the first of the old ones away
      have next : (buffer.setIfInBounds before.length b).toList = (before ++ [b]) ++ (old ++ after) := by
        rw [Array.toList_setIfInBounds, held, List.set_append_right _ _ (Nat.le_refl _)]
        simp
      have later := ih next (Nat.succ.inj long)
      rw [List.length_append, List.length_singleton] at later
      rw [overwrite, later, List.append_assoc]
      rfl

/-- Two strings written one after the other are their concatenation written at once. -/
lemma overwrite_append (buffer : Array UInt8) (start : Nat) (bytes later : Bytes) :
    overwrite buffer start (bytes ++ later) =
      overwrite (overwrite buffer start bytes) (start + bytes.length) later := by
  induction bytes generalizing buffer start with
  | nil => rfl
  | cons b bytes ih =>
    rw [List.cons_append, overwrite, ih, overwrite, List.length_cons]
    congr 1
    omega

/-- Rows laid one by one are laid as one string. -/
lemma lay_eq (buffer : Array UInt8) (start : Nat) (rows : List Bytes) :
    (lay buffer start rows).1 = overwrite buffer start rows.flatten := by
  induction rows generalizing buffer start with
  | nil => rfl
  | cons row rows ih => rw [lay, ih, List.flatten_cons, overwrite_append]

/-- Rows that are laid after others start where those end. -/
lemma lay_append (buffer : Array UInt8) (start : Nat) (rows later : List Bytes) :
    lay buffer start (rows ++ later) = lay (lay buffer start rows).1 (lay buffer start rows).2 later := by
  induction rows generalizing buffer start with
  | nil => rfl
  | cons row rows ih => rw [List.cons_append, lay, ih, lay]

/-- The place after the last row is as far on as the rows are long. -/
lemma place_lay (buffer : Array UInt8) (start : Nat) (rows : List Bytes) :
    (lay buffer start rows).2 = start + rows.flatten.length := by
  induction rows generalizing buffer start with
  | nil => rfl
  | cons row rows ih => rw [lay, ih, List.flatten_cons, List.length_append, Nat.add_assoc]

/-- Bytes written over a buffer leave it as long as it was. -/
@[simp] lemma size_overwrite (buffer : Array UInt8) (start : Nat) (bytes : Bytes) :
    (overwrite buffer start bytes).size = buffer.size := by
  induction bytes generalizing buffer start with
  | nil => rfl
  | cons b bytes ih => rw [overwrite, ih, Array.size_setIfInBounds]

/-- A buffer is made longer if it is too short, and never shorter. -/
lemma size_grow (buffer : Array UInt8) (size : Nat) :
    (grow buffer size).size = max buffer.size size := by
  rw [grow, Array.size_append, Array.size_replicate]
  omega

/-- A buffer that is made longer is long enough. -/
lemma le_size_grow (buffer : Array UInt8) (size : Nat) : size ≤ (grow buffer size).size := by
  rw [size_grow]
  exact Nat.le_max_right ..

/-- A buffer that is made longer keeps what it holds. -/
lemma isPrefix_grow (buffer : Array UInt8) (size : Nat) : buffer.toList <+: (grow buffer size).toList := by
  rw [grow, Array.toList_append]
  exact List.prefix_append ..

/-- What is behind the bytes that a buffer is to hold was there before it was made longer. -/
lemma drop_grow (buffer : Array UInt8) (size : Nat) :
    (grow buffer size).toList.drop size = buffer.toList.drop size := by
  have new : (List.replicate (size - buffer.size) (0 : UInt8)).drop (size - buffer.toList.length) = [] :=
    List.drop_eq_nil_of_le (Nat.le_of_eq (by rw [List.length_replicate, Array.length_toList]))
  rw [grow, Array.toList_append, Array.toList_replicate, List.drop_append, new, List.append_nil]

/-- Rows that are laid over a buffer take the place of its front, and what is behind them stays. -/
lemma toList_lay (long : rows.flatten.length ≤ buffer.size) :
    (lay buffer 0 rows).1.toList = rows.flatten ++ buffer.toList.drop rows.flatten.length := by
  have held : buffer.toList =
      [] ++ (buffer.toList.take rows.flatten.length ++ buffer.toList.drop rows.flatten.length) := by
    rw [List.nil_append, List.take_append_drop]
  have old : (buffer.toList.take rows.flatten.length).length = rows.flatten.length :=
    List.length_take_of_le long
  have laid := toList_overwrite held old
  rwa [List.length_nil, List.nil_append, ← lay_eq] at laid

/-- The front of the buffer is the rows that were laid over it, whatever it held. -/
lemma toList_laid (buffer : Array UInt8) (long : rows.flatten.length = size) :
    ((lay (grow buffer size) 0 rows).1.extract 0 size).toList = rows.flatten := by
  have room := le_size_grow buffer size
  rw [Array.toList_extract, toList_lay (long ▸ room), List.extract_eq_take_drop, List.drop_zero, Nat.sub_zero,
    List.take_left' long]

/-- The rows of all planes, one after the other, are the pixels of the frame. -/
lemma flatten_rowsOf (f : Frame) : (rowsOf f).flatten = f.pixels := by
  simp [rowsOf, Frame.pixels_eq, Channel.all]

end Encoder

/-- A padded frame is not put together if there is no room for it, and the buffer stays as it is. Or else its rows
are laid over the buffer, and the front of the buffer is written. What is told on the way makes no difference. -/
lemma Attempt.payloadLaid_cases (room : Nat → Bool) (f : Frame) (a : Attempt) :
    let size := f.size.frameBytes
    let laid := (Encoder.lay (Encoder.grow a.encoder.scratch size) 0 (Encoder.rowsOf f)).1
    ((a.encoder.scratch.size < size ∧ room size = false) ∧ ∃ events,
        a.payloadLaid room f = { a with events, failure := some (.transportFailed .payload (.noRoom size)) }) ∨
      (¬(a.encoder.scratch.size < size ∧ room size = false) ∧ ∃ events,
        a.payloadLaid room f =
          write { a with encoder := { a.encoder with scratch := laid }, events } .payload
            (.single (laid.extract 0 size).toList) size fun a => a.count size) := by
  intro size laid
  rw [payloadLaid]
  simp only
  split
  case isTrue cramped => exact .inl ⟨cramped, _, rfl⟩
  case isFalse roomy =>
    refine .inr ⟨roomy, ?_⟩
    split
    case isTrue => exact ⟨_, rfl⟩
    case isFalse => exact ⟨_, rfl⟩

end PlanarPipe
