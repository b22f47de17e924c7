import PlanarPipe.Proofs.Stream.Repacking
import PlanarPipe.Proofs.Video.Rows

/-!
# Rows tile the front of a buffer

A padded frame is put together in the front of a buffer, row by row, where each row goes behind the last one.
Much could go wrong there: the buffer could be shorter than the frame, a row could end outside the bytes of its
plane or behind those of the frame, a place could be too large for a word, and the last row could end before
the frame does. `Encoder.repack?` looks at all of this and fails for it, and it does not fail for any frame in
memory. What the rows that were copied have come to is the invariant of the loop (`Encoder.Laying.Tiles`):
one row more keeps it (`Tiles.copy`), and so do the rows of a plane and those of all planes. Main statement:
`Encoder.repacking_tiles`.
-/

namespace PlanarPipe

namespace Encoder

/-- Rows on their way into a buffer: the buffer, the place behind the last row, and from where to where each row
was copied. -/
structure Laying where
  buffer : Array UInt8
  place : Nat := 0
  targets : List (Nat × Nat) := []

namespace Laying

/-- Copies a row to the place that was come to. The row must end inside the first `size` bytes, at a place that
a word holds. -/
def copy? (size : Nat) (s : Laying) (row : Bytes) : Option Laying := do
  let stop ← Bytes.word? (s.place + row.length)
  if stop ≤ size then
    some { buffer := overwrite s.buffer s.place row, place := stop, targets := s.targets ++ [(s.place, stop)] }
  else none

/-- Copies the rows of a plane, as they are cut out of its bytes. -/
def copyPlane? (f : Frame) (s : Laying) (c : Channel) : Option Laying := do
  let rows ← f.cutRows c
  rows.foldlM (copy? f.size.frameBytes) s

/-- A place is one of those that a row was copied to. -/
def covers (place : Nat) (target : Nat × Nat) : Bool := target.1 ≤ place && place < target.2

/-- After some rows were copied to the front of a buffer, the buffer and the place are those of the same rows
laid over it, no row was copied behind the first `size` bytes, and each byte up to the place was written once. -/
structure Tiles (size : Nat) (buffer : Array UInt8) (rows : List Bytes) (s : Laying) : Prop where
  laid : lay buffer 0 rows = (s.buffer, s.place)
  inside : ∀ target ∈ s.targets, target.1 ≤ target.2 ∧ target.2 ≤ size
  once : ∀ place, s.targets.countP (covers place) = if place < s.place then 1 else 0

end Laying

/-- Puts a frame together in the front of a buffer. The buffer must be as long as the frame, and the last row
must end where the frame does. -/
def repack? (f : Frame) (buffer : Array UInt8) : Option Laying :=
  if f.size.frameBytes ≤ buffer.size then do
    let s ← Channel.all.foldlM (Laying.copyPlane? f) { buffer }
    if s.place = f.size.frameBytes then some s else none
  else none

namespace Laying

variable {size : Nat} {buffer : Array UInt8} {rows later : List Bytes} {row : Bytes} {s : Laying} {f : Frame}

/-- Before a row is copied none is there. -/
lemma Tiles.start (size : Nat) (buffer : Array UInt8) : Tiles size buffer [] { buffer } where
  laid := rfl
  inside := List.forall_mem_nil _
  once _ := rfl

/-- The next row starts where those before it end. -/
lemma Tiles.place_eq (tiles : Tiles size buffer rows s) : s.place = rows.flatten.length := by
  have place := place_lay buffer 0 rows
  rwa [tiles.laid, Nat.zero_add] at place

/-- A row is copied if there is room for it. -/
lemma copy?_eq (small : size ≤ Bytes.maxWord) (room : s.place + row.length ≤ size) :
    s.copy? size row = some ⟨overwrite s.buffer s.place row, s.place + row.length,
      s.targets ++ [(s.place, s.place + row.length)]⟩ := by
  rw [copy?, Bytes.word?_eq (Nat.le_trans room small), Option.bind_eq_bind, Option.bind_some, if_pos room]

/-- One row more is copied behind the others, if there is room for it. -/
lemma Tiles.copy (tiles : Tiles size buffer rows s) (small : size ≤ Bytes.maxWord)
    (room : rows.flatten.length + row.length ≤ size) :
    ∃ s', s.copy? size row = some s' ∧ Tiles size buffer (rows ++ [row]) s' := by
  rw [← tiles.place_eq] at room
  refine ⟨_, copy?_eq small room, ?laid, ?inside, ?once⟩
  case laid =>
    rw [lay_append, tiles.laid]
    rfl
  case inside =>
    intro target mem
    rcases List.mem_append.1 mem with old | new
    · exact tiles.inside target old
    · obtain rfl := List.mem_singleton.1 new
      exact ⟨Nat.le_add_right .., room⟩
  case once =>
    intro place
    rw [List.countP_append, tiles.once, List.countP_singleton]
    simp only [covers, Bool.and_eq_true, decide_eq_true_eq]
    split <;> split <;> split <;> omega

/-- More rows are copied behind the others, if there is room for all. -/
lemma Tiles.copyRows (tiles : Tiles size buffer rows s) (small : size ≤ Bytes.maxWord)
    (room : (rows ++ later).flatten.length ≤ size) :
    ∃ s', later.foldlM (copy? size) s = some s' ∧ Tiles size buffer (rows ++ later) s' := by
  induction later generalizing s rows with
  | nil =>
    rw [List.append_nil]
    exact ⟨s, rfl, tiles⟩
  | cons row later ih =>
    rw [List.append_cons] at room ⊢
    have first : rows.flatten.length + row.length ≤ size := by
      simp only [List.flatten_append, List.flatten_cons, List.length_append] at room
      omega
    obtain ⟨next, copied, tiles⟩ := tiles.copy small first
    obtain ⟨last, rest, tiles⟩ := ih tiles room
    refine ⟨last, ?_, tiles⟩
    rw [List.foldlM_cons, copied]
    exact rest

/-- The rows of the planes of a frame are cut out and copied, plane by plane. -/
lemma Tiles.copyPlanes (held : f.Addressable) {planes : List Channel}
    (tiles : Tiles f.size.frameBytes buffer rows s)
    (room : (rows ++ planes.flatMap f.rows).flatten.length ≤ f.size.frameBytes) :
    ∃ s', planes.foldlM (copyPlane? f) s = some s' ∧
      Tiles f.size.frameBytes buffer (rows ++ planes.flatMap f.rows) s' := by
  induction planes generalizing s rows with
  | nil =>
    rw [List.flatMap_nil, List.append_nil]
    exact ⟨s, rfl, tiles⟩
  | cons c planes ih =>
    rw [List.flatMap_cons, ← List.append_assoc] at room ⊢
    have first : (rows ++ f.rows c).flatten.length ≤ f.size.frameBytes := by
      rw [List.flatten_append, List.length_append] at room
      omega
    obtain ⟨next, copied, tiles⟩ := tiles.copyRows (Bytes.saturate_le _) first
    obtain ⟨last, rest, tiles⟩ := ih tiles room
    refine ⟨last, ?_, tiles⟩
    rw [List.foldlM_cons, copyPlane?, Frame.cutRows_eq held, Option.bind_eq_bind, Option.bind_eq_bind,
      Option.bind_some, copied]
    exact rest

end Laying

/-- Nothing goes wrong when a frame in memory is put together in a buffer that is long enough. -/
lemma repack?_tiles {f : Frame} (held : f.Addressable) {buffer : Array UInt8}
    (long : f.size.frameBytes ≤ buffer.size) :
    ∃ s, repack? f buffer = some s ∧ s.place = f.size.frameBytes ∧
      s.Tiles f.size.frameBytes buffer (rowsOf f) := by
  have pixels : (rowsOf f).flatten.length = f.size.frameBytes := by
    rw [flatten_rowsOf, held.exact]
  have room : ([] ++ rowsOf f).flatten.length ≤ f.size.frameBytes := Nat.le_of_eq pixels
  obtain ⟨s, copied, tiles⟩ := (Laying.Tiles.start f.size.frameBytes buffer).copyPlanes held room
  have place : s.place = f.size.frameBytes := tiles.place_eq.trans pixels
  refine ⟨s, ?_, place, tiles⟩
  rw [repack?, if_pos long, copied, Option.bind_eq_bind, Option.bind_some, if_pos place]

end Encoder

namespace Attempt

variable {a : Attempt}

/-- A write leaves the buffer alone if what is done after it does. -/
lemma scratch_write {part : Part} {offer : Offer} {expected : Nat} {settle : Attempt → Attempt}
    (quiet : ∀ b, (settle b).encoder.scratch = b.encoder.scratch) :
    (a.write part offer expected settle).encoder.scratch = a.encoder.scratch := by
  rw [write]
  generalize Outlet.callsFor (a.outlet.see offer) a.outlet.replies = made
  obtain ⟨repeated, last, replies⟩ := made
  simp only
  split
  case h_1 => exact quiet _
  case h_2 => rfl

/-- A padded frame leaves its rows in the buffer, whatever becomes of the write, unless there was no room. -/
lemma scratch_payloadLaid (room : Nat → Bool) (f : Frame) :
    (a.payloadLaid room f).encoder.scratch =
      if a.encoder.scratch.size < f.size.frameBytes ∧ room f.size.frameBytes = false then a.encoder.scratch
      else (Encoder.lay (Encoder.grow a.encoder.scratch f.size.frameBytes) 0 (Encoder.rowsOf f)).1 := by
  rcases a.payloadLaid_cases room f with ⟨cramped, events, refused⟩ | ⟨roomy, events, written⟩
  · rw [refused, if_pos cramped]
  · rw [written, if_neg roomy]
    exact scratch_write fun _ => rfl

end Attempt

namespace Encoder

/-- The rows of a frame in memory are put together in a buffer that earlier frames have left in any state. The
frame is counted exactly. The buffer is made as long as the frame, it is never made shorter, and it keeps what it
held. Then nothing goes wrong: no row is cut out of bytes outside its plane, none is copied to a place behind
the bytes of the frame, each of these bytes is written for just one row, and the last row ends where the frame
does. This is how the rows are laid, which are then the front of the buffer, plane by plane, and what is behind
them is what was there before. An attempt to write the frame leaves the buffer like this, whatever becomes of the
write, and leaves it alone if there is no room to make it longer. -/
theorem repacking_tiles {f : Frame} (held : f.Addressable) (scratch : Array UInt8) :
    let size := f.size.frameBytes
    let grown := grow scratch size
    (size = f.size.exactBytes ∧ size < Bytes.maxWord) ∧
      (size ≤ grown.size ∧ scratch.size ≤ grown.size ∧ scratch.toList <+: grown.toList) ∧
      ∃ s, repack? f grown = some s ∧ s.place = size ∧
        (∀ target ∈ s.targets, target.1 ≤ target.2 ∧ target.2 ≤ size) ∧
        (∀ place < size, s.targets.countP (Laying.covers place) = 1) ∧
        lay grown 0 (rowsOf f) = (s.buffer, s.place) ∧
        s.buffer.toList.take size = (f.rows .luma ++ f.rows .blue ++ f.rows .red).flatten ∧
        s.buffer.toList.drop size = scratch.toList.drop size ∧
        ∀ (room : Nat → Bool) (a : Attempt), a.encoder.scratch = scratch →
          (a.payloadLaid room f).encoder.scratch =
            if scratch.size < size ∧ room size = false then scratch else s.buffer := by
  intro size grown
  have counted := Frame.exactBytes_le held
  have exact : size = f.size.exactBytes := Frame.frameBytes_eq held
  have long : size ≤ grown.size := le_size_grow scratch size
  obtain ⟨s, repacked, place, tiles⟩ := repack?_tiles held long
  have pixels : (rowsOf f).flatten.length = size := by rw [← tiles.place_eq, place]
  -- the rows copied one by one are the rows laid at once, of which it is known what the buffer holds
  have content : s.buffer.toList = (rowsOf f).flatten ++ grown.toList.drop size := by
    have laid := toList_lay (Nat.le_trans (Nat.le_of_eq pixels) long)
    rwa [tiles.laid, pixels] at laid
  have rows : (rowsOf f).flatten = (f.rows .luma ++ f.rows .blue ++ f.rows .red).flatten := by
    rw [flatten_rowsOf, Frame.pixels_eq, List.flatten_append, List.flatten_append, List.append_assoc]
  refine ⟨⟨exact, ?_⟩, ⟨long, ?_, isPrefix_grow scratch size⟩, s, repacked, place, tiles.inside, ?_, tiles.laid,
    ?_, ?_, ?_⟩
  · simp only [Wire.stampLength] at counted
    omega
  · rw [size_grow]
    exact Nat.le_max_left ..
  · intro p inside
    rw [tiles.once, place, if_pos inside]
  · rw [content, List.take_left' pixels, rows]
  · rw [content, List.drop_left' pixels, drop_grow]
  · rintro room a rfl
    rw [Attempt.scratch_payloadLaid, tiles.laid]

/-- A column of two pixels: the rows of luma are three bytes apart, and those of chroma are empty. -/
def columnFrame : Frame where
  size := ⟨1, 2⟩
  plane := Plane.select ⟨[1, 0xEE, 0xEE, 2], 3⟩ ⟨[], 0⟩ ⟨[], 0⟩
  pts := none
  size_ne := by decide
  fits := fun c => by cases c <;> decide

/-- Empty rows, in a buffer that holds more than the frame. -/
theorem repacking_tiles_column :
    columnFrame.Addressable ∧ ∃ s, repack? columnFrame #[9, 9, 9] = some s ∧ s.buffer = #[1, 2, 9] := by
  have held : columnFrame.Addressable := by decide
  obtain ⟨-, -, s, repacked, -, -, -, -, front, behind, -⟩ := repacking_tiles held #[9, 9, 9]
  refine ⟨held, s, repacked, Array.toList_inj.1 ?_⟩
  rw [← List.take_append_drop columnFrame.size.frameBytes s.buffer.toList, front, behind]
  rfl

end Encoder

end PlanarPipe
