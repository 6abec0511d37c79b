import CaptureFlow.Proofs.Geometry.Selection
/-! # The sides of a size

A size is empty if one of its sides is zero.  The sides are words of 32 bits and are widened to 64
for arithmetic: products of two of them lose nothing there (`toNat_mul`). -/

namespace CaptureFlow

theorem toNat_mul (a b : UInt32) : (a.toUInt64 * b.toUInt64).toNat = a.toNat * b.toNat :=
  Size.area_toNat ⟨a, b⟩

theorem Size.isEmpty_iff {size : Size} :
    size.isEmpty = true ↔ size.width = 0 ∨ size.height = 0 := by
  simp only [isEmpty, Bool.or_eq_true, beq_iff_eq]

theorem Size.isEmpty_eq_false_iff {size : Size} :
    size.isEmpty = false ↔ size.width ≠ 0 ∧ size.height ≠ 0 := by
  rw [← Bool.not_eq_true, isEmpty_iff, not_or]

theorem Size.sides_ne_zero {size : Size} (full : size.isEmpty = false) :
    size.width.toUInt64 ≠ 0 ∧ size.height.toUInt64 ≠ 0 := by
  obtain ⟨width, height⟩ := Bool.or_eq_false_iff.mp full
  constructor
  · intro zero
    rw [beq_eq_false_iff_ne] at width
    exact width (UInt32.toUInt64_inj.mp zero)
  · intro zero
    rw [beq_eq_false_iff_ne] at height
    exact height (UInt32.toUInt64_inj.mp zero)

theorem Size.sides_pos {size : Size} (full : size.isEmpty = false) :
    0 < size.width.toNat ∧ 0 < size.height.toNat := by
  obtain ⟨width, height⟩ := sides_ne_zero full
  constructor
  · rw [← UInt32.toNat_toUInt64]
    exact Nat.pos_of_ne_zero fun zero => width (UInt64.toNat_inj.mp zero)
  · rw [← UInt32.toNat_toUInt64]
    exact Nat.pos_of_ne_zero fun zero => height (UInt64.toNat_inj.mp zero)

/-- The size turned on its side. -/
def Size.transposed (size : Size) : Size := ⟨size.height, size.width⟩

theorem Size.isEmpty_transposed (size : Size) : size.transposed.isEmpty = size.isEmpty :=
  Bool.or_comm _ _

end CaptureFlow
