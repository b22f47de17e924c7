import PlanarPipe.Bytes.Basic
import PlanarPipe.Posix.IoError

/-!
# Byte sources

A source answers one read call after another: with bytes, with an error, or with nothing, which is how
the end of a stream is told. What it will answer is written down as a list of deliveries. A read asks
for at most `readLength` bytes, and a longer delivery is handed out in parts.
-/

namespace PlanarPipe

/-- What a source has ready for a read call. -/
inductive Delivery where
  /-- Bytes. No bytes at all read as the end of the stream. -/
  | bytes (data : Bytes)
  | failure (cause : IoError)
  /-- The end of the stream, for this one call. -/
  | nothing
  deriving DecidableEq, Repr

/-- A byte source: what is still to come, and how many read calls there were. -/
structure Source where
  deliveries : List Delivery
  reads : Nat := 0
  deriving DecidableEq, Repr

namespace Source

/-- The most bytes one read call asks for. -/
def readLength : Nat := 64 * 1024

/-- A source that hands out a byte string and then ends. -/
def ofBytes (data : Bytes) : Source := { deliveries := [.bytes data] }

/-- A bound on the read calls that a delivery can still answer. -/
def weigh : Delivery → Nat
  | .bytes data => data.length + 1
  | .failure _ => 1
  | .nothing => 1

/-- A bound on the read calls that do not just report the end. -/
def weight (s : Source) : Nat := (s.deliveries.map weigh).foldr (· + ·) 0

/-- One read call. After the last delivery there is nothing more to come. -/
def read (s : Source) : Except IoError Bytes × Source :=
  let reads := s.reads + 1
  match s.deliveries with
  | [] => (.ok [], { deliveries := [], reads })
  | .nothing :: later => (.ok [], { deliveries := later, reads })
  | .failure cause :: later => (.error cause, { deliveries := later, reads })
  | .bytes data :: later =>
    match data.drop readLength with
    | [] => (.ok data, { deliveries := later, reads })
    | rest => (.ok (data.take readLength), { deliveries := .bytes rest :: later, reads })

/-- A read call that fails leaves fewer read calls. -/
theorem weight_of_read_error {s s' : Source} {cause : IoError} (h : s.read = (.error cause, s')) :
    s'.weight < s.weight := by
  unfold read at h
  split at h
  · simp at h
  · simp at h
  · rename_i later eq
    simp only [Prod.mk.injEq] at h
    obtain ⟨-, rfl⟩ := h
    simp [weight, eq, weigh]
  · split at h <;> simp at h

/-- Bytes that are read are no longer to come. -/
theorem weight_of_read_ok {s s' : Source} {chunk : Bytes} (h : s.read = (.ok chunk, s')) :
    s'.weight + chunk.length ≤ s.weight := by
  unfold read at h
  split at h
  · rename_i eq
    simp only [Prod.mk.injEq, Except.ok.injEq] at h
    obtain ⟨rfl, rfl⟩ := h
    simp [weight]
  · rename_i later eq
    simp only [Prod.mk.injEq, Except.ok.injEq] at h
    obtain ⟨rfl, rfl⟩ := h
    simp [weight, eq]
  · simp at h
  · rename_i data later eq
    split at h
    · simp only [Prod.mk.injEq, Except.ok.injEq] at h
      obtain ⟨rfl, rfl⟩ := h
      simp [weight, eq, weigh]
      omega
    · simp only [Prod.mk.injEq, Except.ok.injEq] at h
      obtain ⟨rfl, rfl⟩ := h
      simp [weight, eq, weigh]
      omega

/-- A read call never answers with more bytes than it was asked for. -/
theorem length_of_read_ok {s s' : Source} {chunk : Bytes} (h : s.read = (.ok chunk, s')) :
    chunk.length ≤ readLength := by
  unfold read at h
  split at h
  · simp only [Prod.mk.injEq, Except.ok.injEq] at h
    simp [← h.1]
  · simp only [Prod.mk.injEq, Except.ok.injEq] at h
    simp [← h.1]
  · simp at h
  · split at h
    · rename_i short
      simp only [Prod.mk.injEq, Except.ok.injEq] at h
      rw [← h.1]
      exact List.drop_eq_nil_iff.1 short
    · simp only [Prod.mk.injEq, Except.ok.injEq] at h
      rw [← h.1, List.length_take]
      omega

end Source

end PlanarPipe
