import CaptureFlow.Geometry.Crop
import CaptureFlow.Proofs.Geometry.Sides
/-! # The crop of a picture to the shape of a surface

There is a crop unless one of the two sizes has a zero side, and it is the region that it is meant
to be (`Crop.fits_surface`).

The crop keeps one side of the picture whole and trims the other to the largest number of pixels
that the shape of the surface allows (`Crop.Shaped`, from `Crop.target_cases`).  What is
trimmed is split evenly, with an odd pixel on the right or at the bottom (`Crop.Centred`).  All of
this is computed without loss (`Crop.Lossless`): no product overflows its word of 64 bits, and
every side and margin fits back into a word of 32. -/

namespace CaptureFlow

namespace Crop

/-! ### The sides of the target -/

theorem toNat_quotient (a b d : UInt32) :
    (a.toUInt64 * b.toUInt64 / d.toUInt64).toNat = a.toNat * b.toNat / d.toNat := by
  rw [UInt64.toNat_div, toNat_mul, UInt32.toNat_toUInt64]

/-- The target of a crop of `image` to the shape of `surface`. -/
def target (image surface : Size) : UInt64 × UInt64 :=
  targetSides image.width.toUInt64 image.height.toUInt64 surface.width.toUInt64
    surface.height.toUInt64

/-- The width of a picture that is too tall is kept and its height trimmed; of any other the height
is kept and the width trimmed.  What is trimmed is rounded down. -/
theorem target_cases (image surface : Size) :
    (image.width.toNat * surface.height.toNat < image.height.toNat * surface.width.toNat ∧
      (target image surface).1.toNat = image.width.toNat ∧
      (target image surface).2.toNat =
        image.width.toNat * surface.height.toNat / surface.width.toNat) ∨
    (image.height.toNat * surface.width.toNat ≤ image.width.toNat * surface.height.toNat ∧
      (target image surface).1.toNat =
        image.height.toNat * surface.width.toNat / surface.height.toNat ∧
      (target image surface).2.toNat = image.height.toNat) := by
  unfold target targetSides
  split
  next taller =>
    rw [UInt64.lt_iff_toNat_lt, toNat_mul, toNat_mul] at taller
    exact .inl ⟨taller, UInt32.toNat_toUInt64 _, toNat_quotient _ _ _⟩
  next wider =>
    rw [UInt64.lt_iff_toNat_lt, toNat_mul, toNat_mul, Nat.not_lt] at wider
    exact .inr ⟨wider, toNat_quotient _ _ _, UInt32.toNat_toUInt64 _⟩

theorem quotient_le {n d side : Nat} (le : n ≤ side * d) : n / d ≤ side := by
  rw [Nat.mul_comm] at le
  exact Nat.div_le_of_le_mul le

theorem targetSides_le (imgW imgH surfW surfH : UInt32) :
    (targetSides imgW.toUInt64 imgH.toUInt64 surfW.toUInt64 surfH.toUInt64).1 ≤ imgW.toUInt64 ∧
      (targetSides imgW.toUInt64 imgH.toUInt64 surfW.toUInt64 surfH.toUInt64).2 ≤
        imgH.toUInt64 := by
  rw [UInt64.le_iff_toNat_le, UInt64.le_iff_toNat_le]
  rcases target_cases ⟨imgW, imgH⟩ ⟨surfW, surfH⟩ with
    ⟨taller, kept, trimmed⟩ | ⟨wider, trimmed, kept⟩
  · refine ⟨Nat.le_of_eq kept, Nat.le_trans (Nat.le_of_eq trimmed) ?_⟩
    exact quotient_le (Nat.le_of_lt taller)
  · refine ⟨Nat.le_trans (Nat.le_of_eq trimmed) ?_, Nat.le_of_eq kept⟩
    exact quotient_le wider

theorem toUInt64_toUInt32 {side : UInt32} {length : UInt64} (fits : length ≤ side.toUInt64) :
    length.toUInt32.toUInt64 = length := by
  have bound := side.toNat_lt
  have small : length.toNat ≤ side.toNat := UInt64.le_iff_toNat_le.mp fits
  apply UInt64.toNat_inj.mp
  rw [UInt32.toNat_toUInt64, UInt64.toNat_toUInt32]
  exact Nat.mod_eq_of_lt (by omega)

/-! ### The crop -/

/-- The rectangle of the sides `target` in the middle of `image`. -/
def inMiddle (image : Size) (target : UInt64 × UInt64) : Crop where
  left := (distance image.width.toUInt64 target.1 / 2).toUInt32
  top := (distance image.height.toUInt64 target.2 / 2).toUInt32
  width := target.1.toUInt32
  height := target.2.toUInt32

theorem toSurface_eq_inMiddle {image surface : Size} (full : image.isEmpty = false)
    (shown : surface.isEmpty = false) :
    toSurface image surface = .ok (inMiddle image (target image surface)) := by
  simp only [toSurface, full, shown]
  rfl

/-- The crop is what the computation gives, with nothing lost on the way: the products do not
overflow, and neither the sides nor the margins are cut off. -/
structure Lossless (c : Crop) (image surface : Size) : Prop where
  across : (image.width.toUInt64 * surface.height.toUInt64).toNat =
    image.width.toNat * surface.height.toNat
  down : (image.height.toUInt64 * surface.width.toUInt64).toNat =
    image.height.toNat * surface.width.toNat
  width : c.width.toUInt64 = (target image surface).1
  height : c.height.toUInt64 = (target image surface).2
  left : c.left.toUInt64 = distance image.width.toUInt64 (target image surface).1 / 2
  top : c.top.toUInt64 = distance image.height.toUInt64 (target image surface).2 / 2

/-- The rectangle has the shape of `surface`, up to less than a pixel of the side that is trimmed,
and keeps a whole side of `image`. -/
structure Shaped (c : Crop) (image surface : Size) : Prop where
  whole : c.width = image.width ∨ c.height = image.height
  tall : c.width = image.width →
    c.height.toNat * surface.width.toNat ≤ c.width.toNat * surface.height.toNat ∧
    c.width.toNat * surface.height.toNat <
      c.height.toNat * surface.width.toNat + surface.width.toNat
  wide : c.height = image.height →
    c.width.toNat * surface.height.toNat ≤ c.height.toNat * surface.width.toNat ∧
    c.height.toNat * surface.width.toNat <
      c.width.toNat * surface.height.toNat + surface.height.toNat

/-- The rectangle lies inside a picture of size `image`. -/
structure Within (c : Crop) (image : Size) : Prop where
  right : c.left.toNat + c.width.toNat ≤ image.width.toNat
  bottom : c.top.toNat + c.height.toNat ≤ image.height.toNat

/-- The rectangle lies in the middle of `image`, or half a pixel to the left of it or above. -/
structure Centred (c : Crop) (image : Size) : Prop where
  across : c.left.toNat ≤ image.width.toNat - (c.left.toNat + c.width.toNat) ∧
    image.width.toNat - (c.left.toNat + c.width.toNat) ≤ c.left.toNat + 1
  down : c.top.toNat ≤ image.height.toNat - (c.top.toNat + c.height.toNat) ∧
    image.height.toNat - (c.top.toNat + c.height.toNat) ≤ c.top.toNat + 1

theorem Lossless.shaped {c : Crop} {image surface : Size} (h : Lossless c image surface)
    (shown : surface.isEmpty = false) : Shaped c image surface := by
  obtain ⟨surfW, surfH⟩ := Size.sides_pos shown
  have width : c.width.toNat = (target image surface).1.toNat := by
    rw [← h.width, UInt32.toNat_toUInt64]
  have height : c.height.toNat = (target image surface).2.toNat := by
    rw [← h.height, UInt32.toNat_toUInt64]
  rcases target_cases image surface with ⟨taller, kept, trimmed⟩ | ⟨wider, trimmed, kept⟩
  · have floor := Nat.div_mul_le_self (image.width.toNat * surface.height.toNat)
      surface.width.toNat
    have next := Nat.lt_div_mul_add (a := image.width.toNat * surface.height.toNat) surfW
    rw [← trimmed, ← height] at floor next
    rw [kept] at width
    refine ⟨.inl (UInt32.toNat_inj.mp width), fun _ => ?_, fun whole => ?_⟩
    · rw [width]
      exact ⟨floor, next⟩
    · -- a picture that is too tall loses some of its height
      rw [whole] at floor
      exact absurd taller (Nat.not_lt.mpr floor)
  · have floor := Nat.div_mul_le_self (image.height.toNat * surface.width.toNat)
      surface.height.toNat
    have next := Nat.lt_div_mul_add (a := image.height.toNat * surface.width.toNat) surfH
    rw [← trimmed, ← width] at floor next
    rw [kept] at height
    refine ⟨.inr (UInt32.toNat_inj.mp height), fun whole => ?_, fun _ => ?_⟩
    · -- with both sides kept the shapes are the same
      rw [whole] at floor
      rw [whole, height]
      omega
    · rw [height]
      exact ⟨floor, next⟩

/-- Half of what is trimmed lies on each side, the smaller half first. -/
theorem centred_margins {side length margin : UInt32} {target : UInt64}
    (fits : target ≤ side.toUInt64) (kept : length.toUInt64 = target)
    (half : margin.toUInt64 = distance side.toUInt64 target / 2) :
    margin.toNat + length.toNat ≤ side.toNat ∧
      margin.toNat ≤ side.toNat - (margin.toNat + length.toNat) ∧
      side.toNat - (margin.toNat + length.toNat) ≤ margin.toNat + 1 := by
  have shorter : target.toNat ≤ side.toNat := UInt64.le_iff_toNat_le.mp fits
  have same : length.toNat = target.toNat := by rw [← kept, UInt32.toNat_toUInt64]
  have halved : margin.toNat = (side.toNat - target.toNat) / 2 := by
    rw [← UInt32.toNat_toUInt64, half, distance, if_neg (UInt64.not_lt.mpr fits),
      UInt64.toNat_div, UInt64.toNat_sub_of_le _ _ fits, UInt32.toNat_toUInt64]
    rfl
  omega

theorem half_distance_le {side : UInt32} {target : UInt64} (fits : target ≤ side.toUInt64) :
    distance side.toUInt64 target / 2 ≤ side.toUInt64 := by
  rw [distance, if_neg (UInt64.not_lt.mpr fits), UInt64.le_iff_toNat_le, UInt64.toNat_div,
    UInt64.toNat_sub_of_le _ _ fits]
  exact Nat.le_trans (Nat.div_le_self _ _) (Nat.sub_le _ _)

theorem toSurface_lossless {image surface : Size} (full : image.isEmpty = false)
    (shown : surface.isEmpty = false) :
    ∃ crop, toSurface image surface = .ok crop ∧ Lossless crop image surface := by
  obtain ⟨width, height⟩ :=
    targetSides_le image.width image.height surface.width surface.height
  refine ⟨_, toSurface_eq_inMiddle full shown, toNat_mul _ _, toNat_mul _ _, ?_, ?_, ?_, ?_⟩
  · exact toUInt64_toUInt32 width
  · exact toUInt64_toUInt32 height
  · exact toUInt64_toUInt32 (half_distance_le width)
  · exact toUInt64_toUInt32 (half_distance_le height)

/-- There is a crop unless a size is empty, and it lies inside the picture. -/
theorem toSurface_ok {image surface : Size} (full : image.isEmpty = false)
    (shown : surface.isEmpty = false) :
    ∃ crop, toSurface image surface = .ok crop ∧ crop.Within image := by
  obtain ⟨width, height⟩ :=
    targetSides_le image.width image.height surface.width surface.height
  obtain ⟨crop, cropped, lossless⟩ := toSurface_lossless full shown
  have right := (centred_margins width lossless.width lossless.left).1
  have bottom := (centred_margins height lossless.height lossless.top).1
  exact ⟨crop, cropped, right, bottom⟩

theorem toSurface_emptyImage {image surface : Size} (empty : image.isEmpty = true) :
    toSurface image surface = .error (.emptySize image) := if_pos empty

theorem toSurface_emptySurface {image surface : Size} (full : image.isEmpty = false)
    (empty : surface.isEmpty = true) : toSurface image surface = .error (.emptySize surface) := by
  simp only [toSurface, full, empty, if_true]
  rfl

/-- **The crop of a picture.**  If no side is zero there is a crop; it is computed without loss,
lies inside the picture, keeps a whole side of it, has equal margins up to a pixel, and has the
shape of the surface up to less than a pixel of the side that is trimmed.  If a side is zero there
is none. -/
theorem fits_surface (image surface : Size) :
    (image.width ≠ 0 ∧ image.height ≠ 0 ∧ surface.width ≠ 0 ∧ surface.height ≠ 0 →
      ∃ crop, toSurface image surface = .ok crop ∧ crop.Lossless image surface ∧
        crop.Within image ∧ crop.Centred image ∧ crop.Shaped image surface) ∧
    ((∃ cause, toSurface image surface = .error cause) ↔
      (image.width = 0 ∨ image.height = 0) ∨ surface.width = 0 ∨ surface.height = 0) := by
  rw [← Size.isEmpty_iff, ← Size.isEmpty_iff]
  constructor
  · rintro ⟨imgW, imgH, surfW, surfH⟩
    have full : image.isEmpty = false :=
      Bool.eq_false_iff.mpr fun empty => (Size.isEmpty_iff.mp empty).elim imgW imgH
    have shown : surface.isEmpty = false :=
      Bool.eq_false_iff.mpr fun empty => (Size.isEmpty_iff.mp empty).elim surfW surfH
    obtain ⟨crop, cropped, lossless⟩ := toSurface_lossless full shown
    obtain ⟨width, height⟩ :=
      targetSides_le image.width image.height surface.width surface.height
    obtain ⟨right, across⟩ := centred_margins width lossless.width lossless.left
    obtain ⟨bottom, down⟩ := centred_margins height lossless.height lossless.top
    exact ⟨crop, cropped, lossless, ⟨right, bottom⟩, ⟨across, down⟩, lossless.shaped shown⟩
  · constructor
    · rintro ⟨cause, failed⟩
      by_contra some_side
      obtain ⟨full, shown⟩ := not_or.mp some_side
      obtain ⟨crop, cropped, -⟩ :=
        toSurface_lossless (Bool.eq_false_iff.mpr full) (Bool.eq_false_iff.mpr shown)
      rw [cropped] at failed
      cases failed
    · intro empty
      cases full : image.isEmpty with
      | true => exact ⟨_, toSurface_emptyImage full⟩
      | false =>
          have empty := empty.resolve_left (Bool.eq_false_iff.mp full)
          exact ⟨_, toSurface_emptySurface full empty⟩

/-- The widest picture there is, to the shape of the narrowest surface: a single column is left. -/
theorem fits_surface_narrow : ∃ crop : Crop,
    toSurface ⟨4294967295, 4294967294⟩ ⟨1, 4294967294⟩ = .ok crop ∧
    crop = ⟨2147483647, 0, 1, 4294967294⟩ ∧
    crop.Shaped ⟨4294967295, 4294967294⟩ ⟨1, 4294967294⟩ := by
  obtain ⟨crop, cropped, -, -, -, shaped⟩ :=
    (fits_surface ⟨4294967295, 4294967294⟩ ⟨1, 4294967294⟩).1 (by decide)
  refine ⟨crop, cropped, ?_, shaped⟩
  exact (Except.ok.inj cropped).symm

end Crop

end CaptureFlow
