import Mathlib.Tactic.Linarith
import CaptureFlow.Proofs.Geometry.Scaling
/-! # The shape of the picture under the transform

The picture is shown in the shape of the view with both sides multiplied by their scales.  It keeps
the camera's shape if the cross products of its sides with the camera's agree up to what rounding to
a millionth may cost (`PreviewTransform.Undistorted`).

The transform scales one axis only, and by lengths: the scaled side gets the camera's length, up to
that rounding, and the other side stays as long as the view is.  So the picture is undistorted where
that other side has the camera's length already, and for views of up to 500000 pixels a side only
there; elsewhere its skew is that of the gap between the two (`PreviewTransform.distorted_by_gap`).
The shape of the view alone does not tell: one of half the camera's size has a gap
(`PreviewTransform.same_shape_distorted`). -/

namespace CaptureFlow.PreviewTransform

/-! ### Distortion -/

/-- By how much the shape of the picture misses the camera's: the difference of the cross products
of their sides, in millionths. -/
def skew (t : PreviewTransform) (preview view : Size) (orientation : Orientation) : Int :=
  view.width.toNat * t.scaleX.millionths.toNat * pictureHeight preview orientation -
    view.height.toNat * t.scaleY.millionths.toNat * pictureWidth preview orientation

/-- The skew that a millionth of a scale makes up for. -/
def tolerance (preview view : Size) (orientation : Orientation) : Int :=
  max (view.width.toNat * pictureHeight preview orientation)
    (view.height.toNat * pictureWidth preview orientation)

/-- The picture has the camera's shape, up to a millionth of a scale. -/
def Undistorted (t : PreviewTransform) (preview view : Size) (orientation : Orientation) : Prop :=
  |t.skew preview view orientation| ≤ tolerance preview view orientation

instance (t : PreviewTransform) (preview view : Size) (orientation : Orientation) :
    Decidable (t.Undistorted preview view orientation) :=
  inferInstanceAs (Decidable (_ ≤ _))

instance (preview view : Size) (orientation : Orientation) :
    Decidable (Wider preview view orientation) :=
  inferInstanceAs (Decidable (_ < _))

/-- The camera's length along the axis that is scaled. -/
def scaledLength (preview view : Size) (orientation : Orientation) : Int :=
  if Wider preview view orientation then pictureWidth preview orientation
  else pictureHeight preview orientation

/-- Along the other axis, by how much the camera's length and that of the view differ, with the sign
of the skew that it makes. -/
def gap (preview view : Size) (orientation : Orientation) : Int :=
  if Wider preview view orientation then pictureHeight preview orientation - view.height.toNat
  else view.width.toNat - pictureWidth preview orientation

/-- The skew that the gap makes. -/
def gapSkew (preview view : Size) (orientation : Orientation) : Int :=
  1000000 * (scaledLength preview view orientation * gap preview view orientation)

/-! ### What rounding costs -/

theorem scaled_bounds {cam view scale : Nat} (pos : 0 < view)
    (scaled : scale = cam * 1000000 / view) :
    (view : Int) * scale ≤ 1000000 * cam ∧ 1000000 * (cam : Int) < view * scale + view := by
  have floor := Nat.div_mul_le_self (cam * 1000000) view
  have next := Nat.lt_div_mul_add (a := cam * 1000000) pos
  rw [← scaled, Nat.mul_comm scale] at floor next
  constructor
  · exact_mod_cast (Nat.mul_comm cam _ ▸ floor)
  · exact_mod_cast (Nat.mul_comm cam _ ▸ next)

/-- What one axis contributes to the skew.  It is scaled so that `view` pixels show the length
`cam`; along the other axis the camera's length is `other`, and `kept` pixels show it. -/
theorem axis_skew_lt {cam view scale other : Nat} (kept : Int) (viewPos : 0 < view)
    (otherPos : 0 < other) (scaled : scale = cam * 1000000 / view) :
    |(view * scale * other - kept * 1000000 * cam) - 1000000 * (cam * (other - kept))| <
      (view * other : Int) := by
  obtain ⟨floor, next⟩ := scaled_bounds viewPos scaled
  have positive : (0 : Int) < other := Int.natCast_pos.mpr otherPos
  have above : view * scale * other ≤ 1000000 * cam * (other : Int) :=
    mul_le_mul_of_nonneg_right floor positive.le
  have below : 1000000 * cam * (other : Int) < (view * scale + view) * other :=
    mul_lt_mul_of_pos_right next positive
  rw [abs_lt]
  constructor <;> linarith

variable {preview view : Size} {orientation : Orientation} {t : PreviewTransform}

/-- On a view that is not huge, rounding costs no more than half the skew of a gap of one pixel. -/
theorem tolerance_le (preview : Size) (orientation : Orientation)
    (small : view.width.toNat ≤ 500000 ∧ view.height.toNat ≤ 500000) :
    2 * tolerance preview view orientation ≤ 1000000 * scaledLength preview view orientation := by
  obtain ⟨viewW, viewH⟩ := small
  by_cases wide : Wider preview view orientation
  · have length : 0 ≤ (pictureWidth preview orientation : Int) := Int.natCast_nonneg _
    have side : (view.height.toNat : Int) ≤ 500000 := by exact_mod_cast viewH
    have larger : (pictureHeight preview orientation * view.width.toNat : Int) ≤
        pictureWidth preview orientation * view.height.toNat := by exact_mod_cast wide.le
    have product := mul_le_mul_of_nonneg_right side length
    rw [tolerance, max_eq_right (by linarith), scaledLength, if_pos wide]
    linarith
  · have length : 0 ≤ (pictureHeight preview orientation : Int) := Int.natCast_nonneg _
    have side : (view.width.toNat : Int) ≤ 500000 := by exact_mod_cast viewW
    have larger : (pictureWidth preview orientation * view.height.toNat : Int) ≤
        pictureHeight preview orientation * view.width.toNat := by exact_mod_cast not_lt.mp wide
    have product := mul_le_mul_of_nonneg_right side length
    rw [tolerance, max_eq_left (by linarith), scaledLength, if_neg wide]
    linarith

/-- The skew is that of the gap, up to rounding. -/
theorem skew_bounds (full : preview.isEmpty = false) (shown : view.isEmpty = false)
    (done : compute preview view orientation = .ok t) :
    |t.skew preview view orientation - gapSkew preview view orientation| <
      tolerance preview view orientation := by
  obtain ⟨viewW, viewH⟩ := Size.sides_pos shown
  obtain ⟨camW, camH⟩ := picture_pos full orientation
  obtain ⟨t', done', cases⟩ := compute_full full shown orientation
  obtain rfl : t = t' := Except.ok.inj (done.symm.trans done')
  rcases cases with ⟨wide, kept, scaled⟩ | ⟨tall, kept, scaled⟩
  · have whole : (t.scaleY.millionths.toNat : Int) = 1000000 := by rw [kept]; rfl
    have across := axis_skew_lt view.height.toNat viewW camH scaled
    simp only [skew, gapSkew, scaledLength, gap, if_pos wide, whole]
    exact lt_of_lt_of_le across (le_max_left _ _)
  · have whole : (t.scaleX.millionths.toNat : Int) = 1000000 := by rw [kept]; rfl
    have down := axis_skew_lt view.width.toNat viewH camW scaled
    simp only [skew, gapSkew, scaledLength, gap, if_neg tall, whole]
    -- the height comes second in the skew
    rw [← abs_neg] at down
    refine lt_of_le_of_lt (le_of_eq ?_) (lt_of_lt_of_le down (le_max_right _ _))
    congr 1
    ring

theorem scaledLength_pos (full : preview.isEmpty = false) (view : Size)
    (orientation : Orientation) : 0 < scaledLength preview view orientation := by
  obtain ⟨camW, camH⟩ := picture_pos full orientation
  unfold scaledLength
  split
  · exact_mod_cast camW
  · exact_mod_cast camH

theorem gap_of_same_shape (same : pictureWidth preview orientation * view.height.toNat =
    pictureHeight preview orientation * view.width.toNat) :
    gap preview view orientation = view.width.toNat - pictureWidth preview orientation :=
  if_neg same.not_gt

/-- Beyond what rounding costs, a gap shows on every view that is not huge. -/
theorem gap_eq_zero_of_undistorted (full : preview.isEmpty = false)
    (small : view.width.toNat ≤ 500000 ∧ view.height.toNat ≤ 500000)
    (near : |t.skew preview view orientation - gapSkew preview view orientation| <
      tolerance preview view orientation)
    (straight : t.Undistorted preview view orientation) : gap preview view orientation = 0 := by
  by_contra some_gap
  have pixel : 1 ≤ |gap preview view orientation| := Int.one_le_abs some_gap
  have length := scaledLength_pos full view orientation
  have apart : 2 * tolerance preview view orientation <
      tolerance preview view orientation + tolerance preview view orientation :=
    calc 2 * tolerance preview view orientation
        ≤ 1000000 * scaledLength preview view orientation :=
          tolerance_le preview orientation small
      _ ≤ 1000000 * (scaledLength preview view orientation *
            |gap preview view orientation|) := by
          have product := le_mul_of_one_le_right length.le pixel
          omega
      _ = |gapSkew preview view orientation| := by
          rw [gapSkew, abs_mul, abs_mul, abs_of_pos length]
          rfl
      _ ≤ |t.skew preview view orientation| +
            |t.skew preview view orientation - gapSkew preview view orientation| := by
          have triangle := abs_sub (t.skew preview view orientation)
            (t.skew preview view orientation - gapSkew preview view orientation)
          rwa [sub_sub_cancel] at triangle
      _ < _ := add_lt_add_of_le_of_lt straight near
  omega

/-- **The distortion of the picture.**  The skew is that of the gap along the axis that is not
scaled, up to what rounding costs.  So without a gap the picture is undistorted, and on views of
up to 500000 pixels a side it is distorted otherwise.  A view of the camera's shape has no gap
only if it has the camera's size. -/
theorem distorted_by_gap (preview view : Size) (orientation : Orientation)
    (full : preview.width ≠ 0 ∧ preview.height ≠ 0) (shown : view.width ≠ 0 ∧ view.height ≠ 0) :
    ∃ t, compute preview view orientation = .ok t ∧
      |t.skew preview view orientation - gapSkew preview view orientation| <
        tolerance preview view orientation ∧
      (gap preview view orientation = 0 → t.Undistorted preview view orientation) ∧
      (view.width.toNat ≤ 500000 ∧ view.height.toNat ≤ 500000 →
        t.Undistorted preview view orientation → gap preview view orientation = 0) ∧
      (pictureWidth preview orientation * view.height.toNat =
          pictureHeight preview orientation * view.width.toNat →
        (gap preview view orientation = 0 ↔
          view.width.toNat = pictureWidth preview orientation)) := by
  rw [← Size.isEmpty_eq_false_iff] at full shown
  obtain ⟨t, done, -⟩ := compute_full full shown orientation
  have near := skew_bounds full shown done
  refine ⟨t, done, near, fun no_gap => ?_, fun small => ?_, fun same => ?_⟩
  · have level : gapSkew preview view orientation = 0 := by
      rw [gapSkew, no_gap, mul_zero, mul_zero]
    rw [level, sub_zero] at near
    exact near.le
  · exact gap_eq_zero_of_undistorted full small near
  · rw [gap_of_same_shape same, sub_eq_zero]
    exact Int.natCast_inj

/-- An upright view as wide as the camera's picture, and a square one that is not as high. -/
theorem distorted_by_gap_upright :
    (∃ t, compute ⟨1920, 1080⟩ ⟨1080, 1800⟩ .portrait = .ok t ∧
      t.Undistorted ⟨1920, 1080⟩ ⟨1080, 1800⟩ .portrait) ∧
    ∃ t, compute ⟨1920, 1080⟩ ⟨1000, 1000⟩ .landscape = .ok t ∧
      ¬t.Undistorted ⟨1920, 1080⟩ ⟨1000, 1000⟩ .landscape := by
  constructor
  · obtain ⟨t, done, -, straight, -⟩ :=
      distorted_by_gap ⟨1920, 1080⟩ ⟨1080, 1800⟩ .portrait (by decide) (by decide)
    exact ⟨t, done, straight (by decide)⟩
  · obtain ⟨t, done, -, -, distorted, -⟩ :=
      distorted_by_gap ⟨1920, 1080⟩ ⟨1000, 1000⟩ .landscape (by decide) (by decide)
    exact ⟨t, done, mt (distorted (by decide)) (by decide)⟩

/-- A view of half the camera's size has the camera's shape, but is not as wide as its picture. -/
theorem same_shape_distorted : ¬ ∀ (preview view : Size) (orientation : Orientation),
    preview.width ≠ 0 ∧ preview.height ≠ 0 → view.width ≠ 0 ∧ view.height ≠ 0 →
    pictureWidth preview orientation * view.height.toNat =
      pictureHeight preview orientation * view.width.toNat →
    ∃ t, compute preview view orientation = .ok t ∧
      t.Undistorted preview view orientation := by
  intro promised
  obtain ⟨t, done, straight⟩ :=
    promised ⟨1920, 1080⟩ ⟨960, 540⟩ .landscape (by decide) (by decide) (by decide)
  have doubled : compute ⟨1920, 1080⟩ ⟨960, 540⟩ .landscape =
      .ok { scaleY := ⟨2000000⟩ } := rfl
  rw [doubled] at done
  obtain rfl := Except.ok.inj done
  revert straight
  decide

end CaptureFlow.PreviewTransform
