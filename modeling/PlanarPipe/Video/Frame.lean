import PlanarPipe.Video.Plane
import PlanarPipe.Video.Error

/-!
# Frames

A frame is a size with pixels and three planes that hold all of its rows. `Frame.build` checks three
given planes, `Frame.ofPacked` cuts them out of one byte string without padding.
-/

namespace PlanarPipe

namespace Plane

/-- The plane holds all rows of its channel at the given size. -/
def Fits (p : Plane) (size : Size) (c : Channel) : Prop :=
  size.rowBytes c ≤ p.stride ∧ required p.stride (size.rowBytes c) (size.rows c) ≤ p.data.length

instance (p : Plane) (size : Size) (c : Channel) : Decidable (p.Fits size c) :=
  inferInstanceAs (Decidable (_ ∧ _))

/-- What keeps a plane from holding its rows: first a stride too small, then data too short. -/
def check (p : Plane) (size : Size) (c : Channel) : Except FrameError Unit :=
  let rowBytes := size.rowBytes c
  let required := required p.stride rowBytes (size.rows c)
  let len := p.data.length
  if p.stride < rowBytes then .error (.narrowStride c p.stride rowBytes)
  else if len < required then .error (.shortPlane c len required)
  else .ok ()

/-- The check of a plane finds nothing exactly if the plane fits. -/
theorem check_eq_ok_iff (p : Plane) (size : Size) (c : Channel) :
    p.check size c = .ok () ↔ p.Fits size c := by
  simp only [check, Fits]
  split
  · simp; omega
  · split
    · simp; omega
    · simp; omega

end Plane

/-- A frame that can be sent: every plane holds its rows. -/
structure Frame where
  size : Size
  plane : Channel → Plane
  pts : Option Int64
  size_ne : size.isEmpty = false
  fits : ∀ c, (plane c).Fits size c

def Plane.select (y u v : Plane) : Channel → Plane
  | .luma => y
  | .blue => u
  | .red => v

namespace Frame

/-- A frame of three planes: fails on a side of zero, then on the first plane that is too small. -/
def build (size : Size) (plane : Channel → Plane) (pts : Option Int64) : Except FrameError Frame :=
  if empty : size.isEmpty then .error (.emptySize size)
  else
    match y : (plane .luma).check size .luma with
    | .error e => .error e
    | .ok () =>
      match u : (plane .blue).check size .blue with
      | .error e => .error e
      | .ok () =>
        match v : (plane .red).check size .red with
        | .error e => .error e
        | .ok () => .ok
          { size, plane, pts
            size_ne := by simpa using empty
            fits := fun c => by
              cases c
              · exact (Plane.check_eq_ok_iff ..).1 y
              · exact (Plane.check_eq_ok_iff ..).1 u
              · exact (Plane.check_eq_ok_iff ..).1 v }

/-- A frame is only built of a size with pixels. -/
theorem size_of_build {size : Size} {plane : Channel → Plane} {pts : Option Int64} {f : Frame}
    (h : build size plane pts = .ok f) : size.isEmpty = false := by
  unfold build at h
  split at h
  · cases h
  · rename_i pixels
    simpa using pixels

/-- The planes of a packed frame, one after the other; the last one takes what is left. -/
def packedPlanes (size : Size) (data : Bytes) : Channel → Plane :=
  let luma := size.planeBytes .luma
  let chroma := size.planeBytes .blue
  let rest := data.drop luma
  Plane.select
    { data := data.take luma, stride := size.rowBytes .luma }
    { data := rest.take chroma, stride := size.rowBytes .blue }
    { data := rest.drop chroma, stride := size.rowBytes .red }

/-- A frame whose planes follow each other without padding in one byte string. -/
def ofPacked (size : Size) (data : Bytes) (pts : Option Int64) : Except FrameError Frame :=
  if data.length < size.frameBytes then
    .error (.shortPlane .luma data.length size.frameBytes)
  else build size (packedPlanes size data) pts

/-- A frame that was made of bytes takes some bytes. -/
theorem frameBytes_pos_of_ofPacked {size : Size} {data : Bytes} {pts : Option Int64} {f : Frame}
    (h : ofPacked size data pts = .ok f) : 0 < size.frameBytes := by
  unfold ofPacked at h
  split at h
  · cases h
  · exact Size.frameBytes_pos (size_of_build h)

/-- The rows of one plane, without padding. -/
def rows (f : Frame) (c : Channel) : List Bytes :=
  (f.plane c).rows (f.size.rowBytes c) (f.size.rows c)

/-- The picture: the rows of all planes in sending order. -/
def pixels (f : Frame) : Bytes := (Channel.all.map fun c => (f.rows c).flatten).flatten

/-- A plane without padding between its rows, if it is one. -/
def packedPlane (f : Frame) (c : Channel) : Option Bytes :=
  if (f.plane c).stride = f.size.rowBytes c then
    some ((f.plane c).data.take (f.size.planeBytes c))
  else none

/-- No plane has padding between its rows. -/
def isPacked (f : Frame) : Bool :=
  Channel.all.all fun c => (f.plane c).stride == f.size.rowBytes c

end Frame

end PlanarPipe
