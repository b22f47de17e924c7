import PlanarPipe.Wire.Decode

/-!
# Bytes received and not yet used

A backlog is a byte string to which chunks are appended and from whose front records are taken. Chunks
are kept apart until they are needed, so that neither costs time in proportion to the whole. What it
stands for is `toList`; `toList_push` says what a chunk does to it, and `head_eq` and
`count_eq_length` what may be asked of it cheaply.
-/

namespace PlanarPipe

/-- A byte string in pieces: a front part, and later chunks, the newest first. -/
structure Backlog where
  front : Bytes
  chunks : List Bytes
  count : Nat
  count_eq : count = (front ++ chunks.reverse.flatten).length
  ready : chunks = [] ∨ Wire.headLength ≤ front.length

namespace Backlog

/-- The bytes of a backlog in order. -/
def toList (b : Backlog) : Bytes := b.front ++ b.chunks.reverse.flatten

/-- A byte string as a backlog of one piece. -/
def ofList (bytes : Bytes) : Backlog := ⟨bytes, [], bytes.length, by simp, .inl rfl⟩

def empty : Backlog := ofList []

/-- The first bytes, as many as a decision about a record may depend on. -/
def head (b : Backlog) : Bytes := b.front.take Wire.headLength

def push (b : Backlog) (chunk : Bytes) : Backlog :=
  if short : (b.front.take Wire.headLength).length < Wire.headLength then
    { front := b.front ++ chunk
      chunks := []
      count := b.count + chunk.length
      count_eq := by
        have few : b.front.length < Wire.headLength := by
          rw [List.length_take] at short
          omega
        have none : b.chunks = [] := b.ready.resolve_right (by omega)
        have count := b.count_eq
        simp [none] at count
        simp [count]
      ready := .inl rfl }
  else
    { front := b.front
      chunks := chunk :: b.chunks
      count := b.count + chunk.length
      count_eq := by
        have count := b.count_eq
        simp at count
        simp [count]
        omega
      ready := by
        rw [List.length_take] at short
        exact .inr (by omega) }

/-- A byte string as a backlog stands for itself. -/
@[simp] theorem toList_ofList (bytes : Bytes) : (ofList bytes).toList = bytes := by
  simp [toList, ofList]

/-- An empty backlog holds no bytes. -/
@[simp] theorem toList_empty : empty.toList = [] := toList_ofList []

/-- The count is that of the bytes. -/
theorem count_eq_length (b : Backlog) : b.count = b.toList.length := b.count_eq

/-- A chunk comes after the bytes that are there. -/
@[simp] theorem toList_push (b : Backlog) (chunk : Bytes) :
    (b.push chunk).toList = b.toList ++ chunk := by
  unfold push
  split
  · rename_i short
    have none : b.chunks = [] := b.ready.resolve_right (by rw [List.length_take] at short; omega)
    simp [toList, none]
  · simp [toList]

/-- The head is the front of the bytes. -/
theorem head_eq (b : Backlog) : b.head = b.toList.take Wire.headLength := by
  rcases b.ready with none | enough
  · simp [head, toList, none]
  · simp [head, toList, List.take_append_of_le_length enough]

/-- A chunk adds its length to the count. -/
theorem count_push (b : Backlog) (chunk : Bytes) : (b.push chunk).count = b.count + chunk.length := by
  simp [count_eq_length]

/-- The count of a byte string as a backlog is its length. -/
@[simp] theorem count_ofList (bytes : Bytes) : (ofList bytes).count = bytes.length := rfl

end Backlog

end PlanarPipe
