import PlanarPipe.Proofs.Video.Extent

/-!
# Frames cut out of one byte string

A byte string that is long enough makes a frame of every size with pixels, and the frame sends the front of
that byte string again: no plane of it is padded, and its rows, one after the other, are the bytes it was cut
out of (`Frame.exists_ofPacked`).
-/

namespace PlanarPipe

/-- A plane without padding holds its rows if it is as long as they are. -/
lemma Plane.fits_packed {size : Size} {c : Channel} {data : Bytes}
    (long : size.planeBytes c ≤ data.length) : Plane.Fits ⟨data, size.rowBytes c⟩ size c := by
  rw [Size.planeBytes_eq, Size.exactPlane] at long
  refine ⟨Nat.le_refl _, ?_⟩
  cases rows : size.rows c with
  | zero => exact Nat.zero_le _
  | succ above =>
    rw [rows, Nat.mul_succ, Nat.mul_comm] at long
    exact Nat.le_trans (Nat.min_le_left ..) long

namespace Frame

variable {size : Size} {data : Bytes}

/-- All that building a frame can come to. -/
lemma build_cases (size : Size) (plane : Channel → Plane) (pts : Option Int64) :
    (∃ pixels fits, build size plane pts = .ok ⟨size, plane, pts, pixels, fits⟩) ∨
      (size.isEmpty = true ∧ build size plane pts = .error (.emptySize size)) ∨
      ∃ c e, size.isEmpty = false ∧ (∀ d, d.index < c.index → (plane d).check size d = .ok ()) ∧
        (plane c).check size c = .error e ∧ build size plane pts = .error e := by
  unfold build
  split
  case isTrue empty => exact .inr (.inl ⟨empty, rfl⟩)
  case isFalse pixels =>
    rw [Bool.not_eq_true] at pixels
    split
    case h_1 failed =>
      exact .inr (.inr ⟨.luma, _, pixels, fun d less => absurd less (Nat.not_lt_zero _), failed, rfl⟩)
    case h_2 luma =>
    split
    case h_1 failed =>
      refine .inr (.inr ⟨.blue, _, pixels, fun d less => ?_, failed, rfl⟩)
      cases d with
      | luma => exact luma
      | blue | red => exact absurd less (by decide)
    case h_2 blue =>
    split
    case h_1 failed =>
      refine .inr (.inr ⟨.red, _, pixels, fun d less => ?_, failed, rfl⟩)
      cases d with
      | luma => exact luma
      | blue => exact blue
      | red => exact absurd less (by decide)
    case h_2 red =>
    have fits : ∀ c, (plane c).Fits size c := by
      intro c
      rw [← Plane.check_eq_ok_iff]
      cases c with
      | luma => exact luma
      | blue => exact blue
      | red => exact red
    exact .inl ⟨pixels, fits, rfl⟩

/-- A frame is built of planes that fit a size with pixels. -/
lemma build_of_fits {plane : Channel → Plane} (pixels : size.isEmpty = false)
    (fits : ∀ c, (plane c).Fits size c) (pts : Option Int64) :
    build size plane pts = .ok ⟨size, plane, pts, pixels, fits⟩ := by
  rcases build_cases size plane pts with ⟨_, _, ok⟩ | ⟨empty, -⟩ | ⟨c, e, -, -, failed, -⟩
  · exact ok
  · rw [pixels] at empty
    cases empty
  · rw [(Plane.check_eq_ok_iff ..).2 (fits c)] at failed
    cases failed

/-- The planes of a byte string are as long as the size says, and the last one may be longer. -/
lemma packedPlanes_fit (long : size.exactBytes ≤ data.length) (c : Channel) :
    (packedPlanes size data c).Fits size c := by
  rw [Size.exactBytes_eq_planeBytes] at long
  cases c with
  | luma =>
    apply Plane.fits_packed
    rw [List.length_take]
    omega
  | blue =>
    apply Plane.fits_packed
    rw [List.length_take, List.length_drop]
    omega
  | red =>
    have same : size.planeBytes .red = size.planeBytes .blue := rfl
    apply Plane.fits_packed
    rw [List.length_drop, List.length_drop]
    omega

/-- The rows of the planes of a byte string are its bytes, as many as the size says. -/
lemma pixels_packedPlanes {f : Frame} (planes : f.plane = packedPlanes f.size data) :
    f.pixels = data.take f.size.exactBytes := by
  have rows : ∀ c, (f.rows c).flatten = (packedPlanes f.size data c).data.take (f.size.planeBytes c) := by
    intro c
    have packed : (f.plane c).stride = f.size.rowBytes c := by
      rw [planes]
      cases c <;> rfl
    rw [Frame.rows, Plane.rows, packed, Plane.flatten_rowsFrom_packed, planes, Size.planeBytes_eq,
      Size.exactPlane]
  have same : f.size.planeBytes .red = f.size.planeBytes .blue := rfl
  rw [pixels_eq, rows, rows, rows, same, Size.exactBytes_eq_planeBytes, List.take_add, List.take_add]
  simp only [packedPlanes, Plane.select, List.take_take, Nat.min_self, List.append_assoc, List.drop_drop]

/-- A byte string at least as long as the size says makes a frame that sends just its front. -/
lemma exists_ofPacked (pixels : size.isEmpty = false) (long : size.exactBytes ≤ data.length)
    (pts : Option Int64) :
    ∃ f, ofPacked size data pts = .ok f ∧ f.size = size ∧ f.pts = pts ∧
      f.pixels = data.take size.exactBytes ∧ f.isPacked = true := by
  let f : Frame := ⟨size, packedPlanes size data, pts, pixels, packedPlanes_fit long⟩
  have enough : ¬data.length < size.frameBytes := by
    rw [Size.frameBytes_eq]
    exact Nat.not_lt.2 (Nat.le_trans (Nat.min_le_left ..) long)
  refine ⟨f, ?_, rfl, rfl, pixels_packedPlanes rfl, ?_⟩
  · rw [ofPacked, if_neg enough, build_of_fits pixels (packedPlanes_fit long)]
  · exact List.all_eq_true.2 fun c _ => by cases c <;> exact beq_self_eq_true _

end Frame

end PlanarPipe
