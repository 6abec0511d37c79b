import Mathlib.Algebra.Order.Floor.Semifield
import Mathlib.Data.Rat.Floor
import CaptureFlow.Geometry.Scale
import CaptureFlow.Proofs.Geometry.Sides
/-! # The scales of a preview

`PreviewTransform.compute` works in words of 64 bits and in whole millionths.  For all sizes it
gives what the rational numbers would: the lengths of the camera's picture are compared with those
of the view, and the axis with the larger ratio is scaled by that ratio, rounded down to a
millionth (`PreviewTransform.computes_ratios`).  `PreviewTransform.compute_full` says the same in
natural numbers, which is the form to compute with.

Nothing is lost on the way (`PreviewTransform.Lossless`): the sides of a size have 32 bits, so the
products that are compared fit into a word, millionths of a side do not saturate, and the ratios
have a denominator.  The camera's picture has the sides of the preview in the order in which the
display is held (`pictureWidth`, `pictureHeight`), so it does not matter in which order they are
given. -/

namespace CaptureFlow

/-! ### Millionths -/

theorem toNat_saturatingMul (a b : UInt64) :
    (saturatingMul a b).toNat = min (a.toNat * b.toNat) (UInt64.size - 1) := by
  have fits : min (a.toNat * b.toNat) (UInt64.size - 1) < UInt64.size :=
    Nat.lt_of_le_of_lt (Nat.min_le_right _ _) (by decide)
  exact UInt64.toNat_ofNat_of_lt' fits

theorem toNat_millionths (side : UInt32) :
    (saturatingMul side.toUInt64 scaleOne).toNat = side.toNat * 1000000 := by
  have bound := side.toNat_lt
  rw [toNat_saturatingMul, UInt32.toNat_toUInt64]
  change min (side.toNat * 1000000) 18446744073709551615 = side.toNat * 1000000
  omega

theorem Scale.ratio?_sides (length : UInt32) {side : UInt32} (some_side : side.toUInt64 ≠ 0) :
    ∃ s, ratio? length.toUInt64 side.toUInt64 = some s ∧
      s.millionths.toNat = length.toNat * 1000000 / side.toNat := by
  refine ⟨_, if_neg some_side, ?_⟩
  rw [UInt64.toNat_div, toNat_millionths, UInt32.toNat_toUInt64]

/-! ### The camera's picture -/

namespace PreviewTransform

def pictureWidth (preview : Size) : Orientation → Nat
  | .portrait => min preview.width.toNat preview.height.toNat
  | .landscape => max preview.width.toNat preview.height.toNat

def pictureHeight (preview : Size) : Orientation → Nat
  | .portrait => max preview.width.toNat preview.height.toNat
  | .landscape => min preview.width.toNat preview.height.toNat

variable {preview view : Size} {orientation : Orientation}

theorem cameraSides_eq (preview : Size) (orientation : Orientation) :
    ∃ camW camH : UInt32, cameraSides preview orientation = (camW.toUInt64, camH.toUInt64) ∧
      camW.toNat = pictureWidth preview orientation ∧
      camH.toNat = pictureHeight preview orientation := by
  have short : preview.short.toNat = min preview.width.toNat preview.height.toNat :=
    UInt32.toNat_min _ _
  have long : preview.long.toNat = max preview.width.toNat preview.height.toNat :=
    UInt32.toNat_max _ _
  cases orientation with
  | portrait => exact ⟨preview.short, preview.long, rfl, short, long⟩
  | landscape => exact ⟨preview.long, preview.short, rfl, long, short⟩

theorem cameraSides_transposed (preview : Size) (orientation : Orientation) :
    cameraSides preview.transposed orientation = cameraSides preview orientation := by
  have short : preview.transposed.short = preview.short := by
    apply UInt32.toNat_inj.mp
    simp only [Size.short, UInt32.toNat_min]
    exact Nat.min_comm _ _
  have long : preview.transposed.long = preview.long := by
    apply UInt32.toNat_inj.mp
    simp only [Size.long, UInt32.toNat_max]
    exact Nat.max_comm _ _
  cases orientation <;> simp only [cameraSides, short, long]

theorem picture_pos (full : preview.isEmpty = false) (orientation : Orientation) :
    0 < pictureWidth preview orientation ∧ 0 < pictureHeight preview orientation := by
  obtain ⟨width, height⟩ := Size.sides_pos full
  cases orientation <;> simp only [pictureWidth, pictureHeight] <;> omega

/-! ### The transform -/

/-- The picture is wider than the view, in proportion to its height. -/
def Wider (preview view : Size) (orientation : Orientation) : Prop :=
  pictureHeight preview orientation * view.width.toNat <
    pictureWidth preview orientation * view.height.toNat

/-- The transform of sizes that are not empty scales one axis: across if the picture is wider than
the view, otherwise down. -/
theorem compute_full (full : preview.isEmpty = false) (shown : view.isEmpty = false)
    (orientation : Orientation) :
    ∃ t, compute preview view orientation = .ok t ∧
      ((Wider preview view orientation ∧ t.scaleY = .identity ∧ t.scaleX.millionths.toNat =
          pictureWidth preview orientation * 1000000 / view.width.toNat) ∨
        (¬Wider preview view orientation ∧ t.scaleX = .identity ∧ t.scaleY.millionths.toNat =
          pictureHeight preview orientation * 1000000 / view.height.toNat)) := by
  obtain ⟨camW, camH, sides, width, height⟩ := cameraSides_eq preview orientation
  obtain ⟨viewW, viewH⟩ := Size.sides_ne_zero shown
  have wider : camH.toUInt64 * view.width.toUInt64 < camW.toUInt64 * view.height.toUInt64 ↔
      Wider preview view orientation := by
    rw [UInt64.lt_iff_toNat_lt, toNat_mul, toNat_mul, width, height]
    rfl
  unfold compute
  rw [full, shown, sides]
  simp only [Bool.false_eq_true, if_false]
  by_cases wide : Wider preview view orientation
  · obtain ⟨s, ratio, scaled⟩ := Scale.ratio?_sides camW viewW
    rw [if_pos (wider.mpr wide), ratio]
    exact ⟨_, rfl, .inl ⟨wide, rfl, width ▸ scaled⟩⟩
  · obtain ⟨s, ratio, scaled⟩ := Scale.ratio?_sides camH viewH
    rw [if_neg (mt wider.mp wide), ratio]
    exact ⟨_, rfl, .inr ⟨wide, rfl, height ▸ scaled⟩⟩

theorem compute_error_iff {cause : Failure} :
    compute preview view orientation = .error cause ↔
      (preview.isEmpty = true ∧ cause = .emptySize preview) ∨
        (preview.isEmpty = false ∧ view.isEmpty = true ∧ cause = .emptySize view) := by
  cases full : preview.isEmpty with
  | true =>
      have failed : compute preview view orientation = .error (.emptySize preview) := if_pos full
      rw [failed]
      simp [eq_comm (a := cause)]
  | false =>
      cases shown : view.isEmpty with
      | true =>
          have failed : compute preview view orientation = .error (.emptySize view) := by
            simp only [compute, full, shown]
            rfl
          rw [failed]
          simp [eq_comm (a := cause)]
      | false =>
          obtain ⟨t, done, -⟩ := compute_full full shown orientation
          simp [done]

theorem compute_cases (preview view : Size) (orientation : Orientation) :
    (∃ t, compute preview view orientation = .ok t) ∨
      ∃ size, size.isEmpty = true ∧
        compute preview view orientation = .error (.emptySize size) := by
  cases done : compute preview view orientation with
  | ok t => exact .inl ⟨t, rfl⟩
  | error cause =>
      rcases compute_error_iff.mp done with ⟨empty, rfl⟩ | ⟨-, empty, rfl⟩
      · exact .inr ⟨preview, empty, rfl⟩
      · exact .inr ⟨view, empty, rfl⟩

theorem compute_transposed (full : preview.isEmpty = false) :
    compute preview.transposed view orientation = compute preview view orientation := by
  have turned : preview.transposed.isEmpty = false := preview.isEmpty_transposed.trans full
  simp only [compute, full, turned, cameraSides_transposed]
  rfl

/-! ### The ratios -/

/-- The axis with the larger ratio of the camera's length to the view's is scaled by that ratio,
rounded down to a millionth, and the other one is not scaled.  Of equal ratios the one down
counts. -/
structure ScalesByRatio (t : PreviewTransform) (camW camH viewW viewH : Nat) : Prop where
  across : (camH : ℚ) / viewH < (camW : ℚ) / viewW →
    t.scaleX.millionths.toNat = ⌊1000000 * (camW : ℚ) / viewW⌋₊ ∧
    t.scaleY.millionths.toNat = 1000000
  down : (camW : ℚ) / viewW ≤ (camH : ℚ) / viewH →
    t.scaleY.millionths.toNat = ⌊1000000 * (camH : ℚ) / viewH⌋₊ ∧
    t.scaleX.millionths.toNat = 1000000

/-- The words hold all that is computed in them: the products that are compared do not overflow,
those of the scales do not saturate, and no denominator is zero. -/
structure Lossless (preview view : Size) (orientation : Orientation) : Prop where
  across : ((cameraSides preview orientation).1 * view.height.toUInt64).toNat =
    pictureWidth preview orientation * view.height.toNat
  down : ((cameraSides preview orientation).2 * view.width.toUInt64).toNat =
    pictureHeight preview orientation * view.width.toNat
  width : (saturatingMul (cameraSides preview orientation).1 scaleOne).toNat =
    pictureWidth preview orientation * 1000000
  height : (saturatingMul (cameraSides preview orientation).2 scaleOne).toNat =
    pictureHeight preview orientation * 1000000
  ratioAcross : ∃ s, Scale.ratio? (cameraSides preview orientation).1 view.width.toUInt64 = some s
  ratioDown : ∃ s, Scale.ratio? (cameraSides preview orientation).2 view.height.toUInt64 = some s

theorem lossless (preview : Size) (shown : view.isEmpty = false) (orientation : Orientation) :
    Lossless preview view orientation := by
  obtain ⟨camW, camH, sides, width, height⟩ := cameraSides_eq preview orientation
  obtain ⟨viewW, viewH⟩ := Size.sides_ne_zero shown
  obtain ⟨s, across, -⟩ := Scale.ratio?_sides camW viewW
  obtain ⟨s', down, -⟩ := Scale.ratio?_sides camH viewH
  constructor <;> rw [sides]
  · rw [toNat_mul, width]
  · rw [toNat_mul, height]
  · rw [toNat_millionths, width]
  · rw [toNat_millionths, height]
  · exact ⟨s, across⟩
  · exact ⟨s', down⟩

/-- Ratios compare as the crosswise products do. -/
theorem ratio_lt_iff {a b c d : Nat} (hb : 0 < b) (hd : 0 < d) :
    (a : ℚ) / b < (c : ℚ) / d ↔ a * d < c * b := by
  rw [div_lt_div_iff₀ (by exact_mod_cast hb) (by exact_mod_cast hd)]
  exact_mod_cast Iff.rfl

theorem floor_ratio (length side : Nat) :
    ⌊1000000 * (length : ℚ) / side⌋₊ = length * 1000000 / side := by
  rw [← Nat.floor_div_eq_div (K := ℚ), Nat.mul_comm]
  push_cast
  rfl

/-- **The transform is that of the ratios.**  If no side is zero, the scales are those that the
rational numbers give, computed without loss, whichever way the sides of the preview are given.
If a side is zero, and only then, there is an error: it names the preview if that has such a side,
and otherwise the view. -/
theorem computes_ratios (preview view : Size) (orientation : Orientation) :
    (preview.width ≠ 0 ∧ preview.height ≠ 0 → view.width ≠ 0 ∧ view.height ≠ 0 →
      ∃ t, compute preview view orientation = .ok t ∧
        t.ScalesByRatio (pictureWidth preview orientation) (pictureHeight preview orientation)
          view.width.toNat view.height.toNat ∧
        Lossless preview view orientation ∧
        compute preview.transposed view orientation = .ok t) ∧
    ∀ cause, compute preview view orientation = .error cause ↔
      ((preview.width = 0 ∨ preview.height = 0) ∧ cause = .emptySize preview) ∨
        ((preview.width ≠ 0 ∧ preview.height ≠ 0) ∧ (view.width = 0 ∨ view.height = 0) ∧
          cause = .emptySize view) := by
  rw [← Size.isEmpty_eq_false_iff, ← Size.isEmpty_eq_false_iff, ← Size.isEmpty_iff,
    ← Size.isEmpty_iff]
  refine ⟨fun full shown => ?_, fun cause => compute_error_iff⟩
  obtain ⟨viewW, viewH⟩ := Size.sides_pos shown
  obtain ⟨t, done, cases⟩ := compute_full full shown orientation
  refine ⟨t, done, ?_, lossless preview shown orientation, (compute_transposed full).trans done⟩
  rcases cases with ⟨wide, kept, scaled⟩ | ⟨tall, kept, scaled⟩
  · refine ⟨fun _ => ⟨?_, congrArg (·.millionths.toNat) kept⟩, fun larger => ?_⟩
    · rw [scaled, floor_ratio]
    · exact absurd ((ratio_lt_iff viewH viewW).mpr wide) (not_lt.mpr larger)
  · refine ⟨fun larger => ?_, fun _ => ⟨?_, congrArg (·.millionths.toNat) kept⟩⟩
    · exact absurd ((ratio_lt_iff viewH viewW).mp larger) tall
    · rw [scaled, floor_ratio]

/-- The smallest ratio there is, and the largest: nothing of the one is left in millionths, and the
other is far from saturation. -/
theorem computes_ratios_extreme :
    (∃ t, compute ⟨1, 1⟩ ⟨4294967295, 4294967295⟩ .portrait = .ok t ∧
      t.ScalesByRatio 1 1 4294967295 4294967295 ∧ t.scaleY.millionths = 0) ∧
    ∃ t, compute ⟨4294967295, 1⟩ ⟨1, 1⟩ .landscape = .ok t ∧
      t.ScalesByRatio 4294967295 1 1 1 ∧ t.scaleX.millionths = 4294967295000000 := by
  constructor
  · obtain ⟨t, done, scales, -⟩ := (computes_ratios ⟨1, 1⟩ ⟨4294967295, 4294967295⟩
      .portrait).1 (by decide) (by decide)
    exact ⟨t, done, scales, by rw [← Except.ok.inj done]; decide⟩
  · obtain ⟨t, done, scales, -⟩ := (computes_ratios ⟨4294967295, 1⟩ ⟨1, 1⟩
      .landscape).1 (by decide) (by decide)
    exact ⟨t, done, scales, by rw [← Except.ok.inj done]; decide⟩

end PreviewTransform

end CaptureFlow
