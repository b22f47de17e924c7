import PlanarPipe.Stream.Outlet
import PlanarPipe.Stream.EncodeError
import PlanarPipe.Video.Frame
import PlanarPipe.Video.Timing
import PlanarPipe.Wire.Record
import PlanarPipe.Log.Event

/-!
# Writing a stream

An encoder writes frames to an outlet, each part of a frame with one write call: an announcement when
the size differs from the one announced last, then the time stamp, then the planes. Frames without
padding go out as three slices; others are first put together in a buffer that is kept and only grows.
The first part that is not taken whole ends the stream.
-/

namespace PlanarPipe

/-- A writer of frames: what was announced, whether the stream has ended, the buffer for padded frames,
and counts of what was written. -/
structure Encoder where
  timing : Timing
  announced : Size := .unset
  stopped : Bool := false
  scratch : Array UInt8 := #[]
  frames : Nat := 0
  bytes : Nat := 0
  deriving DecidableEq

/-- An attempt to write a frame, as far as it has come. -/
structure Attempt where
  encoder : Encoder
  outlet : Outlet
  /-- The write calls, in order. -/
  calls : List WriteCall := []
  events : List Event := []
  failure : Option EncodeError := none

namespace Attempt

/-- Goes on unless something failed. -/
def andThen (a : Attempt) (next : Attempt → Attempt) : Attempt :=
  if a.failure.isSome then a else next a

/-- Whether a call took all of what it was to write. -/
def judge (expected : Nat) : Except IoError Nat → Option WriteFailure
  | .ok written => if written = expected then none else some (.short written expected)
  | .error cause => some (.ofIoError cause)

/-- Writes one part with one call that is to take `expected` bytes; `settle` is done if it does. -/
def write (a : Attempt) (part : Part) (offer : Offer) (expected : Nat)
    (settle : Attempt → Attempt) : Attempt :=
  let (repeated, last, replies) := Outlet.callsFor (a.outlet.see offer) a.outlet.replies
  let a := { a with
    outlet := { a.outlet with replies }
    calls := a.calls ++ repeated ++ [last] }
  match judge expected last.answer with
  | none => settle a
  | some failure => { a with failure := some (.transportFailed part failure) }

/-- Counts bytes as written. -/
def count (a : Attempt) (bytes : Nat) : Attempt :=
  { a with encoder := { a.encoder with bytes := a.encoder.bytes + bytes } }

def tell (a : Attempt) (level : Level) (message : String)
    (fields : List (String × EventValue)) : Attempt :=
  { a with events := a.events ++ [{ level, origin := .encoder, message, fields }] }

/-- The announcement, unless the size is the one announced last. -/
def announce (size : Size) (a : Attempt) : Attempt :=
  if size = a.encoder.announced then a
  else
    let record := Wire.encodeSize size
    a.write .announcement (.single record) record.length fun a =>
      let a := { a with encoder := { a.encoder with announced := size } }
      (a.count record.length).tell .info "dimension record written"
        [("width", .number size.width.toNat), ("height", .number size.height.toNat)]

def stamp (pts : Option Int64) (a : Attempt) : Attempt :=
  let record := Wire.encodeStamp (a.encoder.timing.stamp pts)
  a.write .stamp (.single record) record.length fun a => a.count record.length

end Attempt

namespace Encoder

/-- Bytes written over a buffer from a place on. -/
def overwrite (buffer : Array UInt8) (start : Nat) : Bytes → Array UInt8
  | [] => buffer
  | b :: rest => overwrite (buffer.setIfInBounds start b) (start + 1) rest

/-- The rows of a frame in sending order. -/
def rowsOf (f : Frame) : List Bytes := Channel.all.flatMap f.rows

/-- Rows laid one after the other over a buffer from a place on. The second part of the result is the
place after the last row. -/
def lay (buffer : Array UInt8) (start : Nat) : List Bytes → Array UInt8 × Nat
  | [] => (buffer, start)
  | row :: rest => lay (overwrite buffer start row) (start + row.length) rest

/-- The buffer made at least `size` bytes long; new bytes are zero. -/
def grow (buffer : Array UInt8) (size : Nat) : Array UInt8 :=
  buffer ++ Array.replicate (size - buffer.size) 0

end Encoder

namespace Attempt

/-- The planes of a frame without padding, in one call. -/
def payloadDirect (f : Frame) (a : Attempt) : Attempt :=
  let slices := Channel.all.map fun c => (f.packedPlane c).getD []
  let size := f.size.frameBytes
  a.write .payload (.gather slices) size fun a => a.count size

/-- The planes of a frame with padding, put together and written in one call. `room` tells which buffers
can be had. -/
def payloadLaid (room : Nat → Bool) (f : Frame) (a : Attempt) : Attempt :=
  let size := f.size.frameBytes
  let grown := a.encoder.scratch.size < size
  if grown ∧ room size = false then
    { a.tell .error "failed to allocate frame buffer" [("size", .number size)] with
      failure := some (.transportFailed .payload (.noRoom size)) }
  else
    let scratch := (Encoder.lay (Encoder.grow a.encoder.scratch size) 0 (Encoder.rowsOf f)).1
    let packed := (scratch.extract 0 size).toList
    let a := { a with encoder := { a.encoder with scratch } }
    let a := if grown then a.tell .debug "grew frame buffer" [("size", .number size)] else a
    a.write .payload (.single packed) size fun a => a.count size

def payload (room : Nat → Bool) (f : Frame) (a : Attempt) : Attempt :=
  (if f.isPacked then payloadDirect f a else payloadLaid room f a).andThen fun a =>
    { a with encoder := { a.encoder with frames := a.encoder.frames + 1 } }

/-- A failed attempt ends the stream, and is told. -/
def settle (a : Attempt) : Attempt :=
  match a.failure with
  | none => a
  | some error =>
    let a := { a with encoder := { a.encoder with stopped := true } }
    if error.isReaderGone then a.tell .debug "reader disconnected" []
    else match error with
      | .transportFailed .announcement failure =>
        a.tell .error "failed to write dimension record" [("source", .words failure.message)]
      | error => a.tell .warn "frame write failed, stopping sink" [("err", .words error.message)]

end Attempt

namespace Encoder

/-- An encoder at the start of a stream. -/
def start (timing : Timing) : Encoder := { timing }

/-- Writes one frame, unless the stream has ended. `room` tells which buffers can be had. -/
def pushWithin (room : Nat → Bool) (e : Encoder) (f : Frame) (outlet : Outlet) : Attempt :=
  let a : Attempt := { encoder := e, outlet }
  if e.stopped then { a with failure := some .stopped }
  else
    (((a.announce f.size).andThen (Attempt.stamp f.pts)).andThen (Attempt.payload room f)).settle

def plenty (_ : Nat) : Bool := true

/-- Writes one frame, unless the stream has ended. -/
def push (e : Encoder) (f : Frame) (outlet : Outlet) : Attempt := e.pushWithin plenty f outlet

def pushAll (room : Nat → Bool) (e : Encoder) (outlet : Outlet) : List Frame → List Attempt
  | [] => []
  | f :: later =>
    let a := e.pushWithin room f outlet
    a :: a.encoder.pushAll room a.outlet later

end Encoder

end PlanarPipe
