import PlanarPipe.Proofs.Stream.RoundTrip

/-!
# The layout of a frame does not show

A frame without padding is handed over in place, and any other is first put together in a buffer that
still holds what earlier frames left in it. On the wire the two are the same: what a push sends and what
it changes follows from the rows of the frame alone (`Frame.records_congr`, `Encoder.push_generous`).
-/

namespace PlanarPipe

open Wire

namespace Frame

variable {f g : Frame}

/-- Frames with the same rows have the same pixels. -/
lemma pixels_congr (rows : ∀ c, f.rows c = g.rows c) : f.pixels = g.pixels := by
  rw [pixels, pixels]
  simp only [rows]

/-- The records of a frame are told from its size, its time stamp and its rows. -/
lemma records_congr (size : f.size = g.size) (pts : f.pts = g.pts) (rows : ∀ c, f.rows c = g.rows c)
    (timing : Timing) (current : Option Size) :
    f.records timing current = g.records timing current := by
  rw [records, records, picture, picture, size, pts, pixels_congr rows]

end Frame

namespace Encoder

variable {e : Encoder} {f : Frame} {outlet : Outlet}

/-- What a push does if all is taken and there is room: its records go out, and they are counted. -/
structure Acknowledges (e : Encoder) (f : Frame) (message : Bytes) (a : Attempt) : Prop where
  alive : a.failure = none
  going : a.encoder.stopped = false
  taken : a.taken = message
  announced : a.encoder.announced = f.size
  frames : a.encoder.frames = e.frames + 1
  bytes : a.encoder.bytes = e.bytes + message.length
  timing : a.encoder.timing = e.timing
  generous : a.outlet.Generous

/-- An encoder that is not stopped acknowledges a frame for which there is room, if the outlet takes everything. -/
lemma push_acknowledges {room : Nat → Bool} (exact : f.Exact) (going : e.stopped = false)
    (generous : outlet.Generous) (free : ∀ part, f.bar room e.scratch.size part = none) :
    Acknowledges e f (encodeAll (f.records e.timing e.current)) (e.pushWithin room f outlet) := by
  obtain ⟨performs, books, stopped⟩ := push_performs room outlet exact going
  generalize e.pushWithin room f outlet = a at performs books stopped ⊢
  obtain ⟨alive | ⟨part, -, barred⟩, honest, -⟩ := performs.generous generous
  case inr => exact absurd (free part) barred
  rw [alive] at performs stopped
  rw [performs.accepted_all] at books
  obtain ⟨announced, frames, bytes⟩ := books_whole books
  refine ⟨alive, stopped, ?_, announced, frames, bytes, books.timing, performs.stays_generous generous⟩
  rw [encodeAll_records, ← bytes_parts]
  rcases performs.sends (parts_ne_nil exact) honest with ⟨-, taken⟩ | ⟨failed, -⟩
  · exact taken
  · exact absurd rfl failed

/-- With room for every frame it acknowledges each. -/
lemma push_generous (held : f.Addressable) (going : e.stopped = false) (generous : outlet.Generous) :
    Acknowledges e f (encodeAll (f.records e.timing e.current)) (e.push f outlet) :=
  push_acknowledges held.exact going generous (f.bar_plenty _)

/-- Two encoders that announced the same size send the same bytes for two frames of the same rows,
whatever the encoders have written before and however the planes of the frames are padded. Both pushes
are acknowledged, announce the size and count the same. -/
theorem layouts_agree_on_the_wire (e₁ e₂ : Encoder) (f₁ f₂ : Frame) (outlet₁ outlet₂ : Outlet)
    (held₁ : f₁.Addressable) (held₂ : f₂.Addressable)
    (going₁ : e₁.stopped = false) (going₂ : e₂.stopped = false)
    (timing : e₁.timing = e₂.timing) (announced : e₁.announced = e₂.announced)
    (size : f₁.size = f₂.size) (pts : f₁.pts = f₂.pts) (rows : ∀ c, f₁.rows c = f₂.rows c)
    (generous₁ : outlet₁.Generous) (generous₂ : outlet₂.Generous) :
    let a₁ := e₁.push f₁ outlet₁
    let a₂ := e₂.push f₂ outlet₂
    a₁.taken = a₂.taken ∧
      a₁.taken = encodeAll (f₁.records e₁.timing e₁.current) ∧
      a₁.failure = none ∧ a₂.failure = none ∧
      a₁.encoder.announced = f₁.size ∧ a₂.encoder.announced = f₁.size ∧
      a₁.encoder.frames = e₁.frames + 1 ∧ a₂.encoder.frames = e₂.frames + 1 ∧
      a₁.encoder.bytes = e₁.bytes + a₁.taken.length ∧
      a₂.encoder.bytes = e₂.bytes + a₁.taken.length := by
  intro a₁ a₂
  have first := push_generous held₁ going₁ generous₁
  have second := push_generous held₂ going₂ generous₂
  have current : e₁.current = e₂.current := by rw [current, current, announced]
  rw [← timing, ← current, ← Frame.records_congr size pts rows] at second
  have same : a₁.taken = a₂.taken := first.taken.trans second.taken.symm
  refine ⟨same, first.taken, first.alive, second.alive, first.announced, ?_, first.frames,
    second.frames, ?_, ?_⟩
  · rw [size]
    exact second.announced
  · rw [first.taken]
    exact first.bytes
  · rw [first.taken]
    exact second.bytes

/-- The rows of `Receiver.paddedFrame` without any padding. -/
def packedFrame : Frame :=
  { Receiver.paddedFrame with
    plane := Plane.select ⟨[1, 2, 3, 4], 2⟩ ⟨[5], 1⟩ ⟨[6], 1⟩
    fits := fun c => by cases c <;> decide }

/-- An encoder whose buffer holds the planes of a larger frame. -/
def usedEncoder : Encoder where
  timing := Receiver.ntscTiming
  announced := ⟨2, 2⟩
  scratch := #[9, 9, 9, 9, 9, 9, 9, 9]
  frames := 3
  bytes := 100

/-- A frame padded in its luma rows only and one without padding. -/
theorem layouts_agree_on_the_wire_padded :
    let fresh : Encoder := { timing := Receiver.ntscTiming, announced := ⟨2, 2⟩ }
    let a₁ := usedEncoder.push Receiver.paddedFrame .unlimited
    let a₂ := fresh.push packedFrame .unlimited
    a₁.taken = a₂.taken ∧ a₁.taken = [0xA9, 0x7D, 0xFF, 0xFF, 0xFF, 0xFF, 0xFF, 0xFF, 1, 2, 3, 4, 5, 6] ∧
      a₁.encoder.bytes = 114 ∧ a₂.encoder.bytes = 14 := by
  intro fresh a₁ a₂
  have agree := layouts_agree_on_the_wire usedEncoder fresh Receiver.paddedFrame packedFrame
    .unlimited .unlimited (by decide) (by decide) rfl rfl rfl rfl rfl rfl (fun c => by cases c <;> rfl)
    ⟨rfl, List.forall_mem_nil _⟩ ⟨rfl, List.forall_mem_nil _⟩
  obtain ⟨same, -, -, -, -, -, -, -, bytes₁, bytes₂⟩ := agree
  have message : a₁.taken = [0xA9, 0x7D, 0xFF, 0xFF, 0xFF, 0xFF, 0xFF, 0xFF, 1, 2, 3, 4, 5, 6] := by
    decide
  refine ⟨same, message, bytes₁.trans ?_, bytes₂.trans ?_⟩
  · rw [message]
    rfl
  · rw [message]
    rfl

end Encoder

end PlanarPipe
