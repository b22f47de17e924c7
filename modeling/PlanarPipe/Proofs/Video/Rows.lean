import PlanarPipe.Proofs.Video.Packed
import PlanarPipe.Stream.Encoder

/-!
# Frames whose rows can be read

`Frame.build` makes one test of a plane, that its last row ends inside its bytes. `Plane.Readable` says of all
its rows that they do, and all places are counted without a bound there. For planes that memory holds the two
are the same (`Plane.fits_iff_readable`), so that a size and three planes are refused for what they lack
(`Frame.Refused`) and for nothing else. Rows are cut out of the bytes of a plane at places that are computed
in words: `Bytes.word?` and `Bytes.slice?` fail where a number is too large for a word or a place is outside
the bytes, and the rows of a frame are cut out without such a failure (`Plane.cutRows_eq`). Main statement:
`Frame.build_accepts_readable`.
-/

namespace PlanarPipe

namespace Bytes

/-- A number, if a word holds it. -/
def word? (n : Nat) : Option Nat := if n ≤ maxWord then some n else none

/-- The bytes from one place up to another, if both places are inside the string and in this order. -/
def slice? (data : Bytes) (start stop : Nat) : Option Bytes :=
  if start ≤ stop ∧ stop ≤ data.length then some ((data.take stop).drop start) else none

variable {data : Bytes} {start width : Nat}

/-- A word holds a number within its range. -/
lemma word?_eq {n : Nat} (small : n ≤ maxWord) : word? n = some n := if_pos small

/-- A slice that ends inside the bytes is cut out of them. -/
lemma slice?_eq (inside : start + width ≤ data.length) :
    data.slice? start (start + width) = some ((data.drop start).take width) := by
  rw [slice?, if_pos ⟨Nat.le_add_right .., inside⟩, List.drop_take, Nat.add_sub_cancel_left]

end Bytes

/-- A list of which every element has an image. -/
lemma mapM_eq_map {α β : Type} {f : α → Option β} {g : α → β} {l : List α}
    (some_eq : ∀ a ∈ l, f a = some (g a)) : l.mapM f = some (l.map g) := by
  induction l with
  | nil => rfl
  | cons a l ih =>
    rw [List.mapM_cons, some_eq a (.head l), ih fun b mem => some_eq b (.tail a mem)]
    rfl

/-- A plane is known by its place. -/
lemma Channel.eq_of_index {c d : Channel} (same : c.index = d.index) : c = d := by
  cases c <;> cases d <;> first | rfl | cases same

namespace Plane

/-- The rows of a plane start no closer together than they are long, and each of them ends inside the bytes. -/
def Readable (p : Plane) (size : Size) (c : Channel) : Prop :=
  size.rowBytes c ≤ p.stride ∧ ∀ r < size.rows c, r * p.stride + size.rowBytes c ≤ p.data.length

/-- A row, cut out of the bytes of a plane at places that are computed in words. -/
def cutRow (p : Plane) (width r : Nat) : Option Bytes := do
  let start ← Bytes.word? (r * p.stride)
  let stop ← Bytes.word? (start + width)
  p.data.slice? start stop

def cutRows (p : Plane) (width count : Nat) : Option (List Bytes) := (List.range count).mapM (p.cutRow width)

variable {p : Plane} {size : Size} {c : Channel} {width count r : Nat}

/-- The end of the last row decides for all of them. -/
lemma fits_iff_readable (slice : p.data.length ≤ Bytes.maxSlice) : p.Fits size c ↔ p.Readable size c := by
  constructor
  · intro fits
    refine ⟨fits.1, fun r row => ?_⟩
    rcases fits.last_row slice with last | none
    · have above : r * p.stride ≤ (size.rows c - 1) * p.stride := Nat.mul_le_mul_right _ (by omega)
      omega
    · omega
  · rintro ⟨wide, rows⟩
    refine ⟨wide, ?_⟩
    cases count : size.rows c with
    | zero => exact Nat.zero_le _
    | succ above => exact Nat.le_trans (Nat.min_le_left ..) (rows above (by omega))

/-- A row that ends inside the bytes of its plane is cut out of them. -/
lemma cutRow_eq (slice : p.data.length ≤ Bytes.maxSlice) (inside : r * p.stride + width ≤ p.data.length) :
    p.cutRow width r = some ((p.data.drop (r * p.stride)).take width) := by
  have small : r * p.stride + width ≤ Bytes.maxWord := by
    rw [Bytes.maxSlice] at slice
    rw [Bytes.maxWord]
    omega
  rw [cutRow, Bytes.word?_eq (by omega), Option.bind_eq_bind, Option.bind_some, Bytes.word?_eq small,
    Option.bind_some, Bytes.slice?_eq inside]

/-- The rows of a plane start a stride apart. -/
lemma rows_eq_map (p : Plane) (width count : Nat) :
    p.rows width count = (List.range count).map fun r => (p.data.drop (r * p.stride)).take width := by
  apply List.ext_getElem?
  intro r
  rw [rows, List.getElem?_map]
  rcases Nat.lt_or_ge r count with row | beyond
  · rw [getElem?_rowsFrom _ _ _ _ _ row, List.getElem?_range row, Option.map_some]
  · rw [List.getElem?_eq_none (by rwa [length_rowsFrom]), List.getElem?_eq_none (by rwa [List.length_range])]
    rfl

/-- The rows of a plane are cut out of its bytes. -/
lemma cutRows_eq (slice : p.data.length ≤ Bytes.maxSlice)
    (inside : ∀ r < count, r * p.stride + width ≤ p.data.length) :
    p.cutRows width count = some (p.rows width count) := by
  rw [rows_eq_map]
  apply mapM_eq_map
  intro r mem
  exact cutRow_eq slice (inside r (List.mem_range.1 mem))

/-- The bytes required of a plane with rows end with the last row. -/
lemma required_eq {stride : Nat} (some : 0 < count) :
    required stride width count = Bytes.saturate ((count - 1) * stride + width) := by
  cases count with
  | zero => cases some
  | succ above => rfl

/-- What is wrong with a plane of which a row cannot be read: the rows start closer together than they are
long, or else one of them ends beyond the bytes. -/
inductive Flawed (p : Plane) (size : Size) (c : Channel) : FrameError → Prop
  | narrow (narrow : p.stride < size.rowBytes c) :
      Flawed p size c (.narrowStride c p.stride (size.rowBytes c))
  | short (wide : size.rowBytes c ≤ p.stride) (r : Nat) (row : r < size.rows c)
      (beyond : p.data.length < r * p.stride + size.rowBytes c) :
      Flawed p size c
        (.shortPlane c p.data.length (Bytes.saturate ((size.rows c - 1) * p.stride + size.rowBytes c)))

/-- Where the rows of a plane cannot be read something is wrong with it. -/
lemma readable_or_flawed (p : Plane) (size : Size) (c : Channel) :
    p.Readable size c ∨ ∃ e, p.Flawed size c e := by
  rcases Nat.lt_or_ge p.stride (size.rowBytes c) with narrow | wide
  · exact .inr ⟨_, .narrow narrow⟩
  by_cases rows : ∃ r, r < size.rows c ∧ p.data.length < r * p.stride + size.rowBytes c
  · obtain ⟨r, row, beyond⟩ := rows
    exact .inr ⟨_, .short wide r row beyond⟩
  · exact .inl ⟨wide, fun r row => Nat.le_of_not_lt fun beyond => rows ⟨r, row, beyond⟩⟩

/-- What is wrong with a plane is what its test tells, which looks at the stride first. -/
lemma Flawed.check_eq {e : FrameError} (flawed : p.Flawed size c e) (slice : p.data.length ≤ Bytes.maxSlice) :
    p.check size c = .error e := by
  cases flawed with
  | narrow narrow => exact if_pos narrow
  | short wide r row beyond =>
    have less : p.data.length < required p.stride (size.rowBytes c) (size.rows c) := by
      refine Nat.lt_of_not_ge fun long => ?_
      have readable := (fits_iff_readable slice).1 ⟨wide, long⟩
      exact Nat.not_lt.2 (readable.2 r row) beyond
    rw [check, if_neg (Nat.not_lt.2 wide), if_pos less, required_eq (by omega)]

/-- A plane passes its test just if its rows can be read. -/
lemma check_ok_iff_readable (slice : p.data.length ≤ Bytes.maxSlice) :
    p.check size c = .ok () ↔ p.Readable size c :=
  (check_eq_ok_iff ..).trans (fits_iff_readable slice)

/-- It fails with what is wrong with it, and with nothing else. -/
lemma check_error_iff_flawed {e : FrameError} (slice : p.data.length ≤ Bytes.maxSlice) :
    p.check size c = .error e ↔ p.Flawed size c e := by
  refine ⟨fun failed => ?_, fun flawed => flawed.check_eq slice⟩
  rcases p.readable_or_flawed size c with readable | ⟨e', flawed⟩
  · rw [(check_ok_iff_readable slice).2 readable] at failed
    cases failed
  · rw [flawed.check_eq slice] at failed
    cases failed
    exact flawed

end Plane

namespace Frame

/-- Why a frame is not built of a size and three planes: a side is zero, or else there is a first plane of
which a row cannot be read. -/
inductive Refused (size : Size) (plane : Channel → Plane) : FrameError → Prop
  | empty (side : size.width = 0 ∨ size.height = 0) : Refused size plane (.emptySize size)
  | flawed {e : FrameError} (c : Channel) (sides : size.width ≠ 0 ∧ size.height ≠ 0)
      (before : ∀ d, d.index < c.index → (plane d).Readable size d) (flawed : (plane c).Flawed size c e) :
      Refused size plane e

variable {size : Size} {plane : Channel → Plane} {pts : Option Int64} {e : FrameError}

/-- No frame is built of a size without pixels. -/
lemma build_of_isEmpty (empty : size.isEmpty = true) : build size plane pts = .error (.emptySize size) :=
  dif_pos empty

/-- The first plane that fails its test is what a frame fails for. -/
lemma build_of_check (pixels : size.isEmpty = false) {c : Channel}
    (before : ∀ d, d.index < c.index → (plane d).check size d = .ok ())
    (failed : (plane c).check size c = .error e) : build size plane pts = .error e := by
  rcases build_cases size plane pts with ⟨-, fits, -⟩ | ⟨empty, -⟩ | ⟨d, e', -, before', failed', told⟩
  · rw [(Plane.check_eq_ok_iff ..).2 (fits c)] at failed
    cases failed
  · rw [pixels] at empty
    cases empty
  · -- no two planes are the first one that fails
    rcases Nat.lt_trichotomy c.index d.index with less | same | more
    · rw [before' c less] at failed
      cases failed
    · obtain rfl := Channel.eq_of_index same
      rw [failed] at failed'
      cases failed'
      exact told
    · rw [before d more] at failed'
      cases failed'

/-- A frame is what it was built of. -/
lemma of_build {f : Frame} (built : build size plane pts = .ok f) :
    f.size = size ∧ f.plane = plane ∧ f.pts = pts := by
  rcases build_cases size plane pts with ⟨_, _, ok⟩ | ⟨-, failed⟩ | ⟨_, _, -, -, -, failed⟩
  · rw [ok] at built
    cases built
    exact ⟨rfl, rfl, rfl⟩
  · rw [failed] at built
    cases built
  · rw [failed] at built
    cases built

/-- A frame is built just if it has pixels and the rows of each plane can be read. -/
lemma accepted_iff (held : ∀ c, (plane c).data.length ≤ Bytes.maxSlice) (pts : Option Int64) :
    (∃ f, build size plane pts = .ok f) ↔
      (size.width ≠ 0 ∧ size.height ≠ 0) ∧ ∀ c, (plane c).Readable size c := by
  constructor
  · rintro ⟨f, ok⟩
    obtain ⟨rfl, rfl, -⟩ := of_build ok
    exact ⟨Size.isEmpty_eq_false_iff.1 f.size_ne, fun c => (Plane.fits_iff_readable (held c)).1 (f.fits c)⟩
  · rintro ⟨sides, readable⟩
    have fits := fun c => (Plane.fits_iff_readable (held c)).2 (readable c)
    exact ⟨_, build_of_fits (Size.isEmpty_eq_false_iff.2 sides) fits pts⟩

/-- A frame is refused for the reason that there is, and for no other. -/
lemma refused_iff (held : ∀ c, (plane c).data.length ≤ Bytes.maxSlice) (pts : Option Int64) (e : FrameError) :
    build size plane pts = .error e ↔ Refused size plane e := by
  constructor
  · intro failed
    rcases build_cases size plane pts with ⟨_, _, ok⟩ | ⟨empty, told⟩ | ⟨c, e', pixels, before, flawed, told⟩
    · rw [ok] at failed
      cases failed
    · rw [told] at failed
      cases failed
      exact .empty (Size.isEmpty_iff.1 empty)
    · rw [told] at failed
      cases failed
      exact .flawed c (Size.isEmpty_eq_false_iff.1 pixels)
        (fun d less => (Plane.check_ok_iff_readable (held d)).1 (before d less))
        ((Plane.check_error_iff_flawed (held c)).1 flawed)
  · intro refused
    cases refused with
    | empty side => exact build_of_isEmpty (Size.isEmpty_iff.2 side)
    | flawed c sides before flawed =>
      exact build_of_check (Size.isEmpty_eq_false_iff.2 sides)
        (fun d less => (Plane.check_ok_iff_readable (held d)).2 (before d less)) (flawed.check_eq (held c))

/-- The rows of a plane of a frame, cut out of its bytes at places that are computed in words. -/
def cutRows (f : Frame) (c : Channel) : Option (List Bytes) :=
  (f.plane c).cutRows (f.size.rowBytes c) (f.size.rows c)

/-- A plane without padding, cut out of its bytes; nothing is cut out of one that is padded. -/
def cutPlane (f : Frame) (c : Channel) : Option (Option Bytes) :=
  if (f.plane c).stride = f.size.rowBytes c then ((f.plane c).data.slice? 0 (f.size.planeBytes c)).map some
  else some none

/-- The slices in which a frame without padding is handed over. -/
def cutSlices (f : Frame) : Option (List Bytes) :=
  Channel.all.mapM fun c => (f.cutPlane c).map fun plane => plane.getD []

variable {f : Frame} {c : Channel}

/-- The rows of a frame are cut out of its planes. -/
lemma cutRows_eq (held : f.Addressable) (c : Channel) : f.cutRows c = some (f.rows c) :=
  Plane.cutRows_eq (held c) ((Plane.fits_iff_readable (held c)).1 (f.fits c)).2

/-- Each row is as long as the size says. -/
lemma length_of_mem_rows (held : f.Addressable) {row : Bytes} (mem : row ∈ f.rows c) :
    row.length = f.size.rowBytes c := by
  rw [rows, Plane.rows_eq_map] at mem
  obtain ⟨r, inside, rfl⟩ := List.mem_map.1 mem
  have ends := ((Plane.fits_iff_readable (held c)).1 (f.fits c)).2 r (List.mem_range.1 inside)
  rw [List.length_take, List.length_drop]
  omega

/-- Cutting a plane out never fails. -/
lemma cutPlane_eq (held : f.Addressable) (c : Channel) : f.cutPlane c = some (f.packedPlane c) := by
  rw [cutPlane, packedPlane]
  split
  case isFalse => rfl
  case isTrue packed =>
    have rows := length_flatten_rows held c
    rw [Frame.rows, Plane.rows, packed, Plane.flatten_rowsFrom_packed, ← Size.exactPlane, ← Size.planeBytes_eq,
      List.length_take] at rows
    have cut : (f.plane c).data.slice? 0 (0 + f.size.planeBytes c) = _ := Bytes.slice?_eq (by omega)
    rw [Nat.zero_add, List.drop_zero] at cut
    rw [cut, Option.map_some]

/-- Nor does cutting out the slices that are handed over. -/
lemma cutSlices_eq (held : f.Addressable) :
    f.cutSlices = some (Channel.all.map fun c => (f.packedPlane c).getD []) := by
  apply mapM_eq_map
  intro c _
  rw [cutPlane_eq held, Option.map_some]

/-- A plane without padding is its rows, one after the other. -/
lemma eq_of_packedPlane {bytes : Bytes} (packed : f.packedPlane c = some bytes) : bytes = (f.rows c).flatten := by
  by_cases stride : (f.plane c).stride = f.size.rowBytes c
  · rw [packedPlane_eq stride] at packed
    exact (Option.some.inj packed).symm
  · rw [packedPlane, if_neg stride] at packed
    cases packed

/-- A frame is built of a size and three planes in memory exactly if no side is zero and the rows of all planes
can be read, and it is refused for the first reason that there is. Its rows are then cut out of the bytes
without a failure, as many as there are to be and as long as they are to be. So are its planes without padding,
which are their rows one after the other, and the slices in which such planes are handed over. -/
theorem build_accepts_readable (held : ∀ c, (plane c).data.length ≤ Bytes.maxSlice) :
    let built := build size plane pts
    ((∃ f, built = .ok f) ↔ (size.width ≠ 0 ∧ size.height ≠ 0) ∧ ∀ c, (plane c).Readable size c) ∧
      (∀ e, built = .error e ↔ Refused size plane e) ∧
      ∀ f, built = .ok f →
        (f.size = size ∧ f.plane = plane ∧ f.pts = pts) ∧
        (∀ c, f.cutRows c = some (f.rows c) ∧ (f.rows c).length = size.rows c ∧
          ∀ row ∈ f.rows c, row.length = size.rowBytes c) ∧
        (∀ c, f.cutPlane c = some (f.packedPlane c) ∧
          ∀ bytes, f.packedPlane c = some bytes → bytes = (f.rows c).flatten) ∧
        ∃ slices, f.cutSlices = some slices ∧ ∀ a : Attempt,
          a.payloadDirect f =
            a.write .payload (.gather slices) size.frameBytes fun a => a.count size.frameBytes := by
  intro built
  refine ⟨accepted_iff held pts, refused_iff held pts, fun f ok => ?_⟩
  obtain ⟨rfl, rfl, rfl⟩ := of_build ok
  refine ⟨⟨rfl, rfl, rfl⟩, fun c => ⟨cutRows_eq held c, ?_, fun row => length_of_mem_rows held⟩,
    fun c => ⟨cutPlane_eq held c, fun bytes => eq_of_packedPlane⟩, _, cutSlices_eq held, fun _ => rfl⟩
  exact Plane.length_rowsFrom ..

/-- A single line of three pixels: the rows of luma are farther apart than its bytes go, and there are no rows
of chroma. -/
theorem build_accepts_readable_line :
    let plane := Plane.select ⟨[1, 2, 3], 5⟩ ⟨[], 1⟩ ⟨[], 1⟩
    (∀ c, (plane c).data.length ≤ Bytes.maxSlice) ∧ ∃ f, build ⟨3, 1⟩ plane none = .ok f ∧
      f.cutRows .luma = some [[1, 2, 3]] ∧ f.cutRows .blue = some [] := by
  intro plane
  have held : ∀ c, (plane c).data.length ≤ Bytes.maxSlice := by
    intro c
    cases c <;> decide
  have readable : ∀ c, (plane c).Readable ⟨3, 1⟩ c := by
    intro c
    cases c <;> exact ⟨by decide, by decide⟩
  obtain ⟨accepts, -, reads⟩ := @build_accepts_readable ⟨3, 1⟩ plane none held
  obtain ⟨f, ok⟩ := accepts.2 ⟨by decide, readable⟩
  obtain ⟨⟨size, planes, -⟩, rows, -⟩ := reads f ok
  refine ⟨held, f, ok, (rows .luma).1.trans ?_, (rows .blue).1.trans ?_⟩
  · rw [Frame.rows, size, planes]
    rfl
  · rw [Frame.rows, size, planes]
    rfl

end Frame

end PlanarPipe
