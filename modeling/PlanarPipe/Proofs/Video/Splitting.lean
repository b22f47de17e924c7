import PlanarPipe.Proofs.Video.Rows

/-!
# Frames split off a byte string

`Frame.ofPacked` measures the byte string once, against a count of bytes that saturates, and then splits the
planes off it. `Bytes.split?` fails where the place of a split is beyond the end, and no split of a string
that memory holds fails (`Frame.splitPacked_eq`): such a string passes for long enough only where the count is
exact. A size without pixels has a count of zero, so that every string passes for it, and it is refused for
its zero side. Main statement: `Frame.ofPacked_takes_front`.
-/

namespace PlanarPipe

/-- A byte string in two parts, split at a place inside it. -/
def Bytes.split? (data : Bytes) (place : Nat) : Option (Bytes × Bytes) :=
  if place ≤ data.length then some (data.take place, data.drop place) else none

/-- A byte string is split at a place inside it. -/
lemma Bytes.split?_eq {data : Bytes} {place : Nat} (inside : place ≤ data.length) :
    data.split? place = some (data.take place, data.drop place) := if_pos inside

/-- A size without pixels takes no bytes. -/
lemma Size.exactBytes_of_zero_side {size : Size} (side : size.width = 0 ∨ size.height = 0) :
    size.exactBytes = 0 := by
  rcases side with none | none <;> simp [exactBytes, none]

namespace Frame

/-- The planes of a packed frame, each split off what is left by the ones before it. -/
def splitPlanes (size : Size) (data : Bytes) : Option (Channel → Plane) := do
  let (luma, rest) ← data.split? (size.planeBytes .luma)
  let (blue, red) ← rest.split? (size.planeBytes .blue)
  some (Plane.select ⟨luma, size.rowBytes .luma⟩ ⟨blue, size.rowBytes .blue⟩ ⟨red, size.rowBytes .red⟩)

/-- A frame of planes that are split off a byte string which passes for long enough. -/
def splitPacked (size : Size) (data : Bytes) (pts : Option Int64) : Option (Except FrameError Frame) :=
  if data.length < size.frameBytes then some (.error (.shortPlane .luma data.length size.frameBytes))
  else (splitPlanes size data).map fun plane => build size plane pts

variable {size : Size} {data : Bytes} {pts : Option Int64}

/-- A byte string that is long enough is split into the planes. -/
lemma splitPlanes_eq (long : size.exactBytes ≤ data.length) :
    splitPlanes size data = some (packedPlanes size data) := by
  rw [Size.exactBytes_eq_planeBytes] at long
  have rest : size.planeBytes .blue ≤ (data.drop (size.planeBytes .luma)).length := by
    rw [List.length_drop]
    omega
  rw [splitPlanes, Bytes.split?_eq (by omega), Option.bind_eq_bind, Option.bind_some]
  dsimp only
  rw [Bytes.split?_eq rest]
  rfl

/-- A byte string that memory holds passes for long enough just if it is. -/
lemma passes_iff (held : data.length ≤ Bytes.maxSlice) :
    ¬data.length < size.frameBytes ↔ size.exactBytes ≤ data.length := by
  have small : data.length < Bytes.maxWord := Nat.lt_of_le_of_lt held (by decide)
  rw [Size.lt_frameBytes_iff small, Nat.not_lt]

/-- Splitting never fails on bytes that memory holds. -/
lemma splitPacked_eq (held : data.length ≤ Bytes.maxSlice) :
    splitPacked size data pts = some (ofPacked size data pts) := by
  rw [splitPacked, ofPacked]
  split
  case isTrue => rfl
  case isFalse passes => rw [splitPlanes_eq ((passes_iff held).1 passes), Option.map_some]

/-- Bytes that are too few for the size are refused. -/
lemma ofPacked_of_short (held : data.length ≤ Bytes.maxSlice) (short : data.length < size.exactBytes) :
    ofPacked size data pts = .error (.shortPlane .luma data.length size.frameBytes) := by
  refine if_pos <| Classical.byContradiction fun passes => ?_
  have long := (passes_iff held).1 passes
  omega

/-- A size without pixels is refused, whatever the bytes. -/
lemma ofPacked_of_zero_side (side : size.width = 0 ∨ size.height = 0) :
    ofPacked size data pts = .error (.emptySize size) := by
  have passes : ¬data.length < size.frameBytes := by
    rw [Size.frameBytes_eq, Size.exactBytes_of_zero_side side]
    exact Nat.not_lt_zero _
  rw [ofPacked, if_neg passes, build_of_isEmpty (Size.isEmpty_iff.2 side)]

/-- A frame is made just if it has pixels and there are bytes for them. -/
lemma ofPacked_ok_iff (held : data.length ≤ Bytes.maxSlice) : (∃ f, ofPacked size data pts = .ok f) ↔
    (size.width ≠ 0 ∧ size.height ≠ 0) ∧ size.exactBytes ≤ data.length := by
  constructor
  · rintro ⟨f, ok⟩
    constructor
    · refine Size.isEmpty_eq_false_iff.1 <| Bool.eq_false_iff.2 fun empty => ?_
      rw [ofPacked_of_zero_side (Size.isEmpty_iff.1 empty)] at ok
      cases ok
    · refine Nat.le_of_not_lt fun short => ?_
      rw [ofPacked_of_short held short] at ok
      cases ok
  · rintro ⟨sides, long⟩
    obtain ⟨f, ok, -⟩ := exists_ofPacked (Size.isEmpty_eq_false_iff.2 sides) long pts
    exact ⟨f, ok⟩

/-- No plane is longer than the bytes it is split off. -/
lemma length_packedPlanes_le (size : Size) (data : Bytes) (c : Channel) :
    (packedPlanes size data c).data.length ≤ data.length := by
  cases c with
  | luma | blue | red =>
    simp only [packedPlanes, Plane.select, List.length_take, List.length_drop]
    omega

/-- The planes of a frame are in memory if the bytes are that it is split off. -/
lemma addressable_of_ofPacked {f : Frame} (held : data.length ≤ Bytes.maxSlice)
    (ok : ofPacked size data pts = .ok f) : f.Addressable := by
  have shorter : ∀ c, (packedPlanes size data c).data.length ≤ Bytes.maxSlice :=
    fun c => Nat.le_trans (length_packedPlanes_le size data c) held
  rw [ofPacked] at ok
  split at ok
  case isTrue => cases ok
  case isFalse =>
    obtain ⟨-, planes, -⟩ := of_build ok
    rwa [Addressable, planes]

/-- A frame is cut out of a byte string in memory without a split beyond its end. It succeeds exactly if no
side is zero and the string holds the bytes of the size, counted without a bound. A zero side is told whatever
the string is, and else that the string is too short. The frame has no padding, and its rows are cut out
without a failure: they are the front of the string, as long as is counted for the size. -/
theorem ofPacked_takes_front (held : data.length ≤ Bytes.maxSlice) :
    let cut := ofPacked size data pts
    splitPacked size data pts = some cut ∧
      ((∃ f, cut = .ok f) ↔ (size.width ≠ 0 ∧ size.height ≠ 0) ∧ size.exactBytes ≤ data.length) ∧
      (size.width = 0 ∨ size.height = 0 → cut = .error (.emptySize size)) ∧
      (data.length < size.exactBytes → cut = .error (.shortPlane .luma data.length size.frameBytes)) ∧
      ∀ f, cut = .ok f →
        (f.size = size ∧ f.pts = pts ∧ f.isPacked = true) ∧ (∀ c, f.cutRows c = some (f.rows c)) ∧
          size.frameBytes = size.exactBytes ∧
          (f.rows .luma ++ f.rows .blue ++ f.rows .red).flatten = data.take size.frameBytes := by
  intro cut
  refine ⟨splitPacked_eq held, ofPacked_ok_iff held, ofPacked_of_zero_side, ofPacked_of_short held, ?takes⟩
  intro f ok
  obtain ⟨sides, long⟩ := (ofPacked_ok_iff held).1 ⟨f, ok⟩
  obtain ⟨g, made, parts⟩ := exists_ofPacked (Size.isEmpty_eq_false_iff.2 sides) long pts
  obtain rfl : f = g := Except.ok.inj (ok.symm.trans made)
  obtain ⟨same, stamp, pixels, packed⟩ := parts
  have counted : size.frameBytes = size.exactBytes :=
    Size.frameBytes_of_le (Nat.le_trans long (Nat.le_trans held (by decide)))
  refine ⟨⟨same, stamp, packed⟩, cutRows_eq (addressable_of_ofPacked held ok), counted, ?_⟩
  rw [counted, ← pixels, pixels_eq, List.flatten_append, List.flatten_append, List.append_assoc]

/-- Of twelve bytes, a frame of three by three pixels takes nine for luma and one for each chroma plane. -/
theorem ofPacked_takes_front_odd :
    let data : Bytes := [1, 2, 3, 4, 5, 6, 7, 8, 9, 10, 11, 12]
    data.length ≤ Bytes.maxSlice ∧ ∃ f, splitPacked ⟨3, 3⟩ data none = some (.ok f) ∧
      (f.rows .luma ++ f.rows .blue ++ f.rows .red).flatten = [1, 2, 3, 4, 5, 6, 7, 8, 9, 10, 11] := by
  intro data
  have held : data.length ≤ Bytes.maxSlice := by decide
  obtain ⟨splits, accepts, -, -, takes⟩ := @ofPacked_takes_front ⟨3, 3⟩ data none held
  obtain ⟨f, ok⟩ := accepts.2 (by decide)
  obtain ⟨-, -, -, front⟩ := takes f ok
  exact ⟨held, f, splits.trans (congrArg some ok), front⟩

end Frame

end PlanarPipe
