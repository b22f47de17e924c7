import PlanarPipe.Proofs.Video.Drawing
import PlanarPipe.Proofs.Video.Rows

/-!
# Painting over the planes of the last frame

The source of test frames keeps the planes that it drew last and draws the next ones in their place. The bytes
of a plane are emptied, made as long as the plane is to be, rows and padding, and cut into lines, and the
samples of a row are written over the front of each line (`Pattern.paintPlane`). Lengths are computed in words,
and a call breaks off where one of them is too large, or where a row is longer than its line. None does for
planes that memory holds (`Pattern.repaint_eq`), and whatever calls there were before (`Pattern.Used`), nothing
of them shows. Main statement: `Pattern.repaint_forgets`.
-/

namespace PlanarPipe

/-- Bytes made as many as asked for, if memory holds them: the rest is cut off, or `fill` is added. -/
def Bytes.resize? (data : Bytes) (length : Nat) (fill : UInt8) : Option Bytes :=
  if length ≤ maxSlice then some (data.take length ++ List.replicate (length - data.length) fill) else none

/-- An empty buffer is filled up to the length asked for. -/
lemma Bytes.resize?_nil {length : Nat} (held : length ≤ maxSlice) (fill : UInt8) :
    resize? [] length fill = some (List.replicate length fill) := by
  rw [resize?, if_pos held, List.take_nil]
  rfl

namespace Pattern

/-- The samples of a row, written over the front of a line. -/
def paintLine (c : Channel) (width : Nat) (row index : UInt64) (line : Bytes) : Option Bytes :=
  (Bytes.slice? line 0 width).map fun front : Bytes =>
    front.mapIdx (fun col _ => sample c (UInt64.ofNat col) row index) ++ line.drop width

/-- Rows from `row` on, each written over a line of `step` bytes. Where there are no more lines, no more rows are
written. -/
def paintLines (c : Channel) (width step : Nat) (index : UInt64) (row : Nat) : Nat → Bytes → Option Bytes
  | 0, data => some data
  | count + 1, data =>
    if data.isEmpty then some []
    else do
      let line ← paintLine c width (UInt64.ofNat row) index (data.take step)
      let later ← paintLines c width step index (row + 1) count (data.drop step)
      some (line ++ later)

/-- A plane of frame `index`, drawn in the place of `old`. A line is at least one byte long. -/
def paintPlane (size : Size) (pad : Nat) (index : UInt64) (c : Channel) (old : Bytes) : Option Bytes := do
  let width := size.rowBytes c
  let stride ← Bytes.word? (width + pad)
  let length ← Bytes.word? (stride * size.rows c)
  let blank ← Bytes.resize? (old.take 0) length padByte
  paintLines c width (max stride 1) index 0 (size.rows c) blank

/-- A frame, drawn in the place of the last one. The strides of its planes are computed once more. -/
def repaint (p : Pattern) (size : Size) (index : UInt64) (pts : Option Int64) :
    Option (Except FrameError Frame × Pattern) := do
  let y ← paintPlane size p.pad index .luma (p.planes .luma)
  let u ← paintPlane size p.pad index .blue (p.planes .blue)
  let v ← paintPlane size p.pad index .red (p.planes .red)
  let lumaStride ← Bytes.word? (size.width.toNat + p.pad)
  let chromaStride ← Bytes.word? (size.chroma.width.toNat + p.pad)
  let plane := Plane.select ⟨y, lumaStride⟩ ⟨u, chromaStride⟩ ⟨v, chromaStride⟩
  some (Frame.build size plane pts, { p with planes := fun c => (plane c).data })

/-- What calls make of a source of test frames. One that breaks off may leave anything in the planes. -/
inductive Used (pad : Nat) : Pattern → Prop where
  | new :
    Used pad (start pad)
  | called {p p' size index pts frame} :
    Used pad p →
    p.repaint size index pts = some (frame, p') →
    Used pad p'
  | broken {p size index pts planes} :
    Used pad p →
    p.repaint size index pts = none →
    Used pad { p with planes }

/-- A plane and its padding are held in memory, and a word holds the distance of its rows. -/
structure Paintable (size : Size) (pad : Nat) (c : Channel) : Prop where
  stride : size.rowBytes c + pad ≤ Bytes.maxWord
  held : (size.rowBytes c + pad) * size.rows c ≤ Bytes.maxSlice

/-- The rows of a plane of frame `index`. -/
def sampledRows (size : Size) (index : UInt64) (c : Channel) : List Bytes :=
  (List.range (size.rows c)).map fun row =>
    (List.range (size.rowBytes c)).map fun col => sample c (UInt64.ofNat col) (UInt64.ofNat row) index

variable {size : Size} {pad : Nat} {index : UInt64} {c : Channel} {pts : Option Int64}

/-- A line of equal entries, mapped with their places, is a table over the places. -/
lemma mapIdx_replicate {α β : Type} (f : Nat → β) (n : Nat) (a : α) :
    (List.replicate n a).mapIdx (fun i _ => f i) = (List.range n).map f := by
  apply List.ext_getElem
  · rw [List.length_mapIdx, List.length_replicate, List.length_map, List.length_range]
  · intro i _ _
    rw [List.getElem_mapIdx, List.getElem_map, List.getElem_range]

/-- A line of padding becomes a row with the padding behind it. -/
lemma paintLine_blank (c : Channel) (width pad : Nat) (row index : UInt64) :
    paintLine c width row index (List.replicate (width + pad) padByte) = some (drawRow c width pad row index) := by
  have inside : 0 + width ≤ (List.replicate (width + pad) padByte).length := by
    rw [List.length_replicate]
    omega
  have front := Bytes.slice?_eq inside
  rw [Nat.zero_add, List.drop_zero, List.take_replicate, Nat.min_eq_left (Nat.le_add_right ..)] at front
  rw [paintLine, front, Option.map_some, mapIdx_replicate, List.drop_replicate, Nat.add_sub_cancel_left, drawRow]

/-- Lines of padding become rows with the padding behind them. -/
lemma paintLines_blank (c : Channel) (width pad : Nat) (index : UInt64) (row count : Nat) :
    paintLines c width (max (width + pad) 1) index row count (List.replicate ((width + pad) * count) padByte) =
      some ((List.range' row count).flatMap fun r => drawRow c width pad (UInt64.ofNat r) index) := by
  induction count generalizing row with
  | zero =>
    rw [Nat.mul_zero]
    rfl
  | succ count ih =>
    rcases Nat.eq_zero_or_pos (width + pad) with none | room
    · -- rows of no bytes at all: there is no line, and nothing to draw
      obtain ⟨rfl, rfl⟩ := Nat.add_eq_zero_iff.1 none
      have drawn : (List.range' row (count + 1)).flatMap (fun r => drawRow c 0 0 (UInt64.ofNat r) index) = [] :=
        List.flatMap_eq_nil_iff.2 fun _ _ => rfl
      rw [Nat.zero_mul, drawn]
      rfl
    · have step : max (width + pad) 1 = width + pad := Nat.max_eq_left room
      have lines : (width + pad) * (count + 1) = width + pad + (width + pad) * count := by
        rw [Nat.mul_succ, Nat.add_comm]
      have more : (List.replicate ((width + pad) * (count + 1)) padByte).isEmpty = false := by
        rw [List.isEmpty_replicate, decide_eq_false_iff_not]
        exact Nat.ne_of_gt (Nat.mul_pos room (Nat.succ_pos count))
      rw [step] at ih ⊢
      rw [paintLines, more, if_neg Bool.false_ne_true, lines, List.take_replicate, List.drop_replicate,
        Nat.min_eq_left (Nat.le_add_right ..), Nat.add_sub_cancel_left, paintLine_blank, ih]
      rfl

/-- A plane that memory holds is drawn as it is drawn alone, whatever was in its place. -/
lemma paintPlane_eq (paintable : Paintable size pad c) (old : Bytes) :
    paintPlane size pad index c old = some (drawPlane size pad index c) := by
  obtain ⟨stride, held⟩ := paintable
  have counted : (size.rowBytes c + pad) * size.rows c ≤ Bytes.maxWord := Nat.le_trans held (by decide)
  have painted := paintLines_blank c (size.rowBytes c) pad index 0 (size.rows c)
  rw [← List.range_eq_range'] at painted
  simp only [paintPlane, Bytes.word?_eq stride, Bytes.word?_eq counted, List.take_zero, Bytes.resize?_nil held,
    Option.bind_eq_bind, Option.bind_some]
  exact painted

/-- Drawing in the place of the last frame comes to drawing, if memory holds all planes. -/
lemma repaint_eq (p : Pattern) (paintable : ∀ c, Paintable size p.pad c) :
    p.repaint size index pts = some (p.render size index pts) := by
  have planes : Plane.select ⟨drawPlane size p.pad index .luma, size.rowBytes .luma + p.pad⟩
      ⟨drawPlane size p.pad index .blue, size.rowBytes .blue + p.pad⟩
      ⟨drawPlane size p.pad index .red, size.rowBytes .red + p.pad⟩ =
        fun c => ⟨drawPlane size p.pad index c, size.rowBytes c + p.pad⟩ := by
    funext c
    cases c <;> rfl
  have luma : Bytes.word? (size.width.toNat + p.pad) = _ := Bytes.word?_eq (paintable .luma).stride
  have chroma : Bytes.word? (size.chroma.width.toNat + p.pad) = _ := Bytes.word?_eq (paintable .blue).stride
  simp only [repaint, paintPlane_eq (paintable _), luma, chroma, Option.bind_eq_bind, Option.bind_some]
  exact congrArg (fun plane => some (Frame.build size plane pts, { p with planes := fun c => (plane c).data })) planes

/-- A call changes nothing but the planes. -/
lemma pad_of_repaint {p p' : Pattern} {frame : Except FrameError Frame}
    (called : p.repaint size index pts = some (frame, p')) : p'.pad = p.pad := by
  simp only [repaint, Option.bind_eq_bind, Option.bind_eq_some_iff] at called
  obtain ⟨y, -, u, -, v, -, luma, -, chroma, -, made⟩ := called
  cases made
  rfl

/-- A pattern keeps its padding, whatever it was used for. -/
lemma Used.pad_eq {p : Pattern} (used : Used pad p) : p.pad = pad := by
  induction used with
  | new => rfl
  | called _ called ih => exact (pad_of_repaint called).trans ih
  | broken _ _ ih => exact ih

/-- The first plane has the longest rows, and it is not empty. -/
lemma paintable_of_held (pixels : size.isEmpty = false)
    (held : ∀ c, (size.rowBytes c + pad) * size.rows c ≤ Bytes.maxSlice) (c : Channel) : Paintable size pad c := by
  have wide := (size.sides_le_luma c).1
  have row : (size.width.toNat + pad) * 1 ≤ (size.width.toNat + pad) * size.height.toNat :=
    Nat.mul_le_mul_left _ (Size.sides_pos_iff.1 pixels).2
  have luma : (size.width.toNat + pad) * size.height.toNat ≤ Bytes.maxSlice := held .luma
  have small : Bytes.maxSlice ≤ Bytes.maxWord := by decide
  exact ⟨by omega, held c⟩

/-- The bytes of a plane: the samples of each row, and the padding behind them. -/
lemma getElem?_drawPlane {row col : Nat} (inside : row < size.rows c) (reach : col < size.rowBytes c + pad) :
    (drawPlane size pad index c)[row * (size.rowBytes c + pad) + col]? =
      some (if col < size.rowBytes c then sample c (UInt64.ofNat col) (UInt64.ofNat row) index else padByte) := by
  have long := fun r => length_drawRow c (size.rowBytes c) pad (UInt64.ofNat r) index
  have lines := congrArg (·[row]?) (Plane.rowsFrom_flatMap long (Nat.le_refl _) 0 (size.rows c))
  have line : ((drawPlane size pad index c).drop (row * (size.rowBytes c + pad))).take (size.rowBytes c + pad) =
      drawRow c (size.rowBytes c) pad (UInt64.ofNat row) index := by
    rw [drawPlane, List.range_eq_range']
    simpa [Plane.getElem?_rowsFrom _ _ _ _ _ inside, List.getElem?_range' inside, List.take_of_length_le, long]
      using lines
  have sampled : ((List.range (size.rowBytes c)).map fun col =>
      sample c (UInt64.ofNat col) (UInt64.ofNat row) index).length = size.rowBytes c := by
    rw [List.length_map, List.length_range]
  rw [← List.getElem?_drop, ← List.getElem?_take_of_lt reach, line, drawRow]
  split
  case isTrue front =>
    rw [List.getElem?_append_left (by rwa [sampled]), List.getElem?_map, List.getElem?_range front, Option.map_some]
  case isFalse behind =>
    rw [List.getElem?_append_right (by rw [sampled]; omega), sampled, List.getElem?_replicate_of_lt (by omega)]

/-- A frame that is drawn in the place of others is the frame that is drawn alone: whatever calls there were before, of
any sizes, and also if one of them broke off. It is made of any size with pixels whose planes memory holds. Each plane
has as many bytes as its rows and their padding take, the samples of a row in its columns and the padding byte behind
them, so that its rows depend neither on the padding nor on the calls before. It is packed just if there is no
padding. -/
theorem repaint_forgets {p : Pattern} (used : Used pad p) (sides : size.width ≠ 0 ∧ size.height ≠ 0)
    (held : ∀ c, (size.rowBytes c + pad) * size.rows c ≤ Bytes.maxSlice) (index : UInt64) (pts : Option Int64) :
    ∃ f planes, p.repaint size index pts = some (.ok f, ⟨pad, planes⟩) ∧
      p.render size index pts = (.ok f, ⟨pad, planes⟩) ∧
      (f.size = size ∧ f.pts = pts) ∧
      (∀ c, let stride := size.rowBytes c + pad
        (f.plane c).stride = stride ∧ (f.plane c).data.length = stride * size.rows c ∧
          ∀ row < size.rows c, ∀ col < stride, (f.plane c).data[row * stride + col]? =
            some (if col < size.rowBytes c then sample c (.ofNat col) (.ofNat row) index else padByte)) ∧
      (∀ c, f.cutRows c = some (sampledRows size index c)) ∧
      (f.isPacked = true ↔ pad = 0) := by
  obtain rfl := used.pad_eq
  have pixels := Size.isEmpty_eq_false_iff.2 sides
  have drawn := p.render_eq pixels index pts
  refine ⟨frame pixels p.pad index pts, _, ?_, drawn, ⟨rfl, rfl⟩, ?_, ?_, ?_⟩
  · exact (p.repaint_eq (paintable_of_held pixels held)).trans (congrArg some drawn)
  · intro c
    refine ⟨rfl, ?_, fun row inside col reach => getElem?_drawPlane inside reach⟩
    exact (length_drawPlane size p.pad index c).trans (Nat.mul_comm _ _)
  · intro c
    have addressable : (frame pixels p.pad index pts).Addressable := by
      intro c
      exact (congrArg (· ≤ Bytes.maxSlice) (length_drawPlane size p.pad index c)).mpr (Nat.mul_comm _ _ ▸ held c)
    exact (Frame.cutRows_eq addressable c).trans (congrArg some (rows_frame pixels p.pad index pts c))
  · rw [Frame.isPacked_iff]
    exact ⟨fun packed => Nat.add_eq_left.1 (packed .luma), fun none c => Nat.add_eq_left.2 none⟩

/-- Three pixels in a row, drawn where two rows were and then a size without pixels. The chroma planes have no
rows, and what is behind luma was drawn there anew. -/
theorem repaint_forgets_smaller :
    let p := ((start 1).render ⟨2, 2⟩ 7 none).2
    let p' := (p.render ⟨0, 3⟩ 8 none).2
    Used 1 p' ∧ ∃ f planes, p'.repaint ⟨3, 1⟩ 0 (some 5) = some (.ok f, ⟨1, planes⟩) ∧
      (f.plane .luma).data.length = 4 ∧ (f.plane .luma).data[3]? = some 0xEE ∧
      f.cutRows .luma = some [[0, 1, 2]] ∧ f.cutRows .blue = some [] ∧ ¬f.isPacked = true := by
  intro p p'
  have paintable : ∀ size : Size, size.width.toNat ≤ 9 ∧ size.height.toNat ≤ 9 → ∀ c, Paintable size 1 c := by
    intro size small c
    obtain ⟨wide, high⟩ := size.sides_le_luma c
    have area : (size.rowBytes c + 1) * size.rows c ≤ 10 * 9 := Nat.mul_le_mul (by omega) (by omega)
    exact ⟨Nat.le_trans (by omega : _ ≤ 10) (by decide), Nat.le_trans area (by decide)⟩
  have first : (start 1).repaint ⟨2, 2⟩ 7 none = some ((start 1).render ⟨2, 2⟩ 7 none) :=
    repaint_eq _ (paintable _ (by decide))
  have second : p.repaint ⟨0, 3⟩ 8 none = some (p.render ⟨0, 3⟩ 8 none) := repaint_eq _ (paintable _ (by decide))
  have used : Used 1 p' := .called (.called .new first) second
  obtain ⟨f, planes, called, -, -, bytes, rows, packed⟩ :=
    @repaint_forgets ⟨3, 1⟩ 1 p' used (by decide) (fun c => (paintable _ (by decide) c).held) 0 (some 5)
  obtain ⟨-, length, luma⟩ := bytes .luma
  exact ⟨used, f, planes, called, length, luma 0 (by decide) 3 (by decide), rows .luma, rows .blue,
    mt packed.1 (by decide)⟩

end Pattern

end PlanarPipe
