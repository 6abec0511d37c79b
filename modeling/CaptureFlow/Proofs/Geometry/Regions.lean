import CaptureFlow.Proofs.Geometry.Cropping
/-! # Which pixels a crop keeps

Each side of a crop is the side of the picture or, if that is shorter, what the shape of the
surface leaves of it beside the whole of the other side (`Crop.target_eq_min`).  Both sides are
given by the same formula, with the axes exchanged, and the surface enters into it only through
the ratio of its sides.  So surfaces of one shape get the same crop, and turning the picture and
the surface on their sides turns the crop (`Crop.shape_decides`).

What is left of a side is rounded down.  To the shape of a surface that is flatter than a single
row of the picture, or narrower than a single column, nothing is left of it: such a crop is no
region, for it has no pixels (`Crop.has_pixels_iff`; `Crop.no_pixels` is one of them). -/

namespace CaptureFlow

/-! ### Sizes of one shape -/

/-- The ratio of the width to the height is the same. -/
def Size.Similar (s t : Size) : Prop :=
  s.width.toNat * t.height.toNat = t.width.toNat * s.height.toNat

/-- `t` is `s` enlarged `k` times. -/
structure Size.Enlarged (k : Nat) (s t : Size) : Prop where
  width : t.width.toNat = k * s.width.toNat
  height : t.height.toNat = k * s.height.toNat

theorem Size.Enlarged.similar {k : Nat} {s t : Size} (h : Enlarged k s t) : Similar s t := by
  unfold Similar
  rw [h.width, h.height, Nat.mul_left_comm, Nat.mul_assoc]

theorem ne_zero_of_multiple {k : Nat} {side multiple : UInt32} (some_times : 1 ≤ k)
    (pos : 0 < side.toNat) (product : multiple.toNat = k * side.toNat) : multiple ≠ 0 := by
  rintro rfl
  have positive := Nat.mul_pos some_times pos
  rw [← product] at positive
  exact absurd positive (by decide)

theorem Size.Enlarged.full {k : Nat} {s t : Size} (h : Enlarged k s t) (some_times : 1 ≤ k)
    (full : s.isEmpty = false) : t.isEmpty = false := by
  obtain ⟨width, height⟩ := sides_pos full
  rw [isEmpty_eq_false_iff]
  exact ⟨ne_zero_of_multiple some_times width h.width,
    ne_zero_of_multiple some_times height h.height⟩

/-- Quotients are rounded down to the same number if the ratios are the same. -/
theorem div_eq_div_of_cross {a b c d : Nat} (hb : 0 < b) (hd : 0 < d) (cross : a * d = c * b) :
    a / b = c / d :=
  calc a / b = a * d / (b * d) := (Nat.mul_div_mul_right a b hd).symm
    _ = c * b / (d * b) := by rw [cross, Nat.mul_comm b d]
    _ = c / d := Nat.mul_div_mul_right c d hb

namespace Crop

/-! ### The sides of the target, without branches -/

/-- Each side of the target is the side of the picture, or what fits the shape of the surface beside
the whole of the other side, whichever is shorter. -/
theorem target_eq_min (image : Size) {surface : Size} (shown : surface.isEmpty = false) :
    (target image surface).1.toNat = min image.width.toNat
        (image.height.toNat * surface.width.toNat / surface.height.toNat) ∧
      (target image surface).2.toNat = min image.height.toNat
        (image.width.toNat * surface.height.toNat / surface.width.toNat) := by
  obtain ⟨surfW, surfH⟩ := Size.sides_pos shown
  rcases target_cases image surface with ⟨taller, kept, trimmed⟩ | ⟨wider, trimmed, kept⟩
  · rw [kept, trimmed]
    constructor
    · have whole := (Nat.le_div_iff_mul_le surfH).mpr (Nat.le_of_lt taller)
      exact (Nat.min_eq_left whole).symm
    · have shorter := quotient_le (Nat.le_of_lt taller)
      exact (Nat.min_eq_right shorter).symm
  · rw [kept, trimmed]
    constructor
    · have shorter := quotient_le wider
      exact (Nat.min_eq_right shorter).symm
    · have whole := (Nat.le_div_iff_mul_le surfW).mpr wider
      exact (Nat.min_eq_left whole).symm

/-! ### What decides the crop -/

/-- The crop turned on its side with the picture. -/
def transposed (c : Crop) : Crop := ⟨c.top, c.left, c.height, c.width⟩

theorem target_similar (image : Size) {surface other : Size} (shown : surface.isEmpty = false)
    (otherShown : other.isEmpty = false) (alike : surface.Similar other) :
    target image other = target image surface := by
  obtain ⟨surfW, surfH⟩ := Size.sides_pos shown
  obtain ⟨otherW, otherH⟩ := Size.sides_pos otherShown
  obtain ⟨width, height⟩ := target_eq_min image shown
  obtain ⟨width', height'⟩ := target_eq_min image otherShown
  have across : image.height.toNat * other.width.toNat / other.height.toNat =
      image.height.toNat * surface.width.toNat / surface.height.toNat := by
    apply div_eq_div_of_cross otherH surfH
    rw [Nat.mul_assoc, ← alike, Nat.mul_assoc]
  have down : image.width.toNat * other.height.toNat / other.width.toNat =
      image.width.toNat * surface.height.toNat / surface.width.toNat := by
    apply div_eq_div_of_cross otherW surfW
    rw [Nat.mul_assoc, Nat.mul_comm other.height.toNat, alike, Nat.mul_assoc,
      Nat.mul_comm surface.height.toNat]
  apply Prod.ext
  · apply UInt64.toNat_inj.mp
    rw [width, width', across]
  · apply UInt64.toNat_inj.mp
    rw [height, height', down]

theorem target_transposed (image : Size) {surface : Size} (shown : surface.isEmpty = false) :
    target image.transposed surface.transposed = (target image surface).swap := by
  obtain ⟨width, height⟩ := target_eq_min image shown
  obtain ⟨width', height'⟩ := target_eq_min image.transposed
    (surface.isEmpty_transposed.trans shown)
  apply Prod.ext
  · exact UInt64.toNat_inj.mp (width'.trans height.symm)
  · exact UInt64.toNat_inj.mp (height'.trans width.symm)

/-- **The shape of the surface decides the crop.**  Any other surface of the same shape gives the
same crop of a picture, an enlarged one in particular, and neither axis is preferred: the crop of
the picture turned on its side, to the surface turned on its side, is the crop turned on its side.
-/
theorem shape_decides (image surface : Size) (full : image.width ≠ 0 ∧ image.height ≠ 0)
    (shown : surface.width ≠ 0 ∧ surface.height ≠ 0) :
    ∃ crop, toSurface image surface = .ok crop ∧
      (∀ other : Size, other.width ≠ 0 ∧ other.height ≠ 0 → surface.Similar other →
        toSurface image other = .ok crop) ∧
      (∀ (k : Nat) (larger : Size), 1 ≤ k → surface.Enlarged k larger →
        toSurface image larger = .ok crop) ∧
      toSurface image.transposed surface.transposed = .ok crop.transposed := by
  rw [← Size.isEmpty_eq_false_iff] at full shown
  have similar : ∀ other : Size, other.isEmpty = false → surface.Similar other →
      toSurface image other = .ok (inMiddle image (target image surface)) := by
    intro other otherShown alike
    rw [toSurface_eq_inMiddle full otherShown, target_similar image shown otherShown alike]
  refine ⟨_, toSurface_eq_inMiddle full shown, ?_, ?_, ?_⟩
  · intro other otherShown
    exact similar other (Size.isEmpty_eq_false_iff.mpr otherShown)
  · intro k larger some_times enlarged
    exact similar larger (enlarged.full some_times shown) enlarged.similar
  · rw [toSurface_eq_inMiddle (image.isEmpty_transposed.trans full)
      (surface.isEmpty_transposed.trans shown), target_transposed image shown]
    rfl

/-- Where picture and surface have one shape, all of the picture is kept both ways.  To an upright
surface, an odd number of columns is cut off a wide picture, and as many rows off a high one. -/
theorem shape_decides_tie :
    (∃ crop : Crop,
      toSurface ⟨4294967295, 3⟩ ⟨1431655765, 1⟩ = .ok crop ∧
      toSurface ⟨4294967295, 3⟩ ⟨2863311530, 2⟩ = .ok crop ∧
      toSurface ⟨4294967295, 3⟩ ⟨4294967295, 3⟩ = .ok crop ∧
      toSurface ⟨3, 4294967295⟩ ⟨1, 1431655765⟩ = .ok crop.transposed ∧
      crop = ⟨0, 0, 4294967295, 3⟩) ∧
    ∃ crop : Crop,
      toSurface ⟨4032, 3024⟩ ⟨1080, 1920⟩ = .ok crop ∧
      toSurface ⟨4032, 3024⟩ ⟨9, 16⟩ = .ok crop ∧
      toSurface ⟨4032, 3024⟩ ⟨2160, 3840⟩ = .ok crop ∧
      toSurface ⟨3024, 4032⟩ ⟨1920, 1080⟩ = .ok crop.transposed ∧
      crop = ⟨1165, 0, 1701, 3024⟩ := by
  constructor
  · obtain ⟨crop, cropped, similar, enlarged, turned⟩ :=
      shape_decides ⟨4294967295, 3⟩ ⟨1431655765, 1⟩ (by decide) (by decide)
    refine ⟨crop, cropped, similar _ (by decide) (by unfold Size.Similar; decide),
      enlarged 3 _ (by decide) ⟨by decide, by decide⟩, turned, ?_⟩
    exact (Except.ok.inj cropped).symm
  · obtain ⟨crop, cropped, similar, enlarged, turned⟩ :=
      shape_decides ⟨4032, 3024⟩ ⟨1080, 1920⟩ (by decide) (by decide)
    refine ⟨crop, cropped, similar _ (by decide) (by unfold Size.Similar; decide),
      enlarged 2 _ (by decide) ⟨by decide, by decide⟩, turned, ?_⟩
    exact (Except.ok.inj cropped).symm

/-! ### Crops with pixels -/

/-- A side that is cut down to a quotient vanishes only with the quotient. -/
theorem min_div_eq_zero_iff {side n d : Nat} (pos : 0 < side) (hd : 0 < d) :
    min side (n / d) = 0 ↔ n < d := by
  have vanishes := Nat.div_eq_zero_iff_lt hd (x := n)
  omega

/-- **The crops with pixels.**  A crop has no width if and only if the surface's height exceeds
its width more times than the picture has rows, and no height if and only if its width exceeds its
height more times than the picture has columns.  One of the sides is always kept. -/
theorem has_pixels_iff (image surface : Size) (full : image.width ≠ 0 ∧ image.height ≠ 0)
    (shown : surface.width ≠ 0 ∧ surface.height ≠ 0) :
    ∃ crop, toSurface image surface = .ok crop ∧
      (crop.width = 0 ↔
        image.height.toNat * surface.width.toNat < surface.height.toNat) ∧
      (crop.height = 0 ↔
        image.width.toNat * surface.height.toNat < surface.width.toNat) ∧
      (crop.width = image.width ∨ crop.height = image.height) := by
  rw [← Size.isEmpty_eq_false_iff] at full shown
  obtain ⟨imgW, imgH⟩ := Size.sides_pos full
  obtain ⟨surfW, surfH⟩ := Size.sides_pos shown
  obtain ⟨width, height⟩ := target_eq_min image shown
  obtain ⟨crop, cropped, lossless⟩ := toSurface_lossless full shown
  refine ⟨crop, cropped, ?_, ?_, (lossless.shaped shown).whole⟩
  · rw [← min_div_eq_zero_iff imgW surfH, ← width, ← lossless.width, UInt32.toNat_toUInt64]
    exact UInt32.toNat_inj.symm
  · rw [← min_div_eq_zero_iff imgH surfW, ← height, ← lossless.height, UInt32.toNat_toUInt64]
    exact UInt32.toNat_inj.symm

/-- A surface of one row: as wide as the picture it leaves a row of it. -/
theorem has_pixels_row : ∃ crop : Crop, toSurface ⟨4032, 3024⟩ ⟨4032, 1⟩ = .ok crop ∧
    crop.width ≠ 0 ∧ crop.height ≠ 0 := by
  obtain ⟨crop, cropped, width, height, -⟩ :=
    has_pixels_iff ⟨4032, 3024⟩ ⟨4032, 1⟩ (by decide) (by decide)
  exact ⟨crop, cropped, mt width.mp (by decide), mt height.mp (by decide)⟩

/-- Wider by a pixel, it leaves nothing: not every crop is a region. -/
theorem no_pixels : ¬ ∀ image surface : Size, image.width ≠ 0 ∧ image.height ≠ 0 →
    surface.width ≠ 0 ∧ surface.height ≠ 0 →
      ∃ crop, toSurface image surface = .ok crop ∧ crop.width ≠ 0 ∧ crop.height ≠ 0 := by
  intro real
  obtain ⟨crop, cropped, -, height⟩ := real ⟨4032, 3024⟩ ⟨4033, 1⟩ (by decide) (by decide)
  have empty : toSurface ⟨4032, 3024⟩ ⟨4033, 1⟩ = .ok ⟨0, 1512, 4032, 0⟩ := rfl
  rw [empty] at cropped
  obtain rfl := Except.ok.inj cropped
  exact height rfl

end Crop

end CaptureFlow
