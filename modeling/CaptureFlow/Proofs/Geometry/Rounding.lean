import CaptureFlow.Proofs.Geometry.Scaling
/-! # Ratios of words

A ratio is a quotient of two words in millionths, rounded down (`Scale.quotient`).  `Scale.ratio?`
takes the millionths of the numerator first and divides them then, and there is one word for the
millionths: a numerator above `Scale.largestExact` counts as the largest word of them.

Up to that bound the ratio is the quotient.  Beyond it, the ratio is what the denominator leaves of
the largest word, which is never more than the quotient and often less (`Scale.rounds_down`).  Small
quotients are not safe from it: the largest word divided by itself is a whole, and its ratio a
millionth (`Scale.whole_not_kept`). -/

namespace CaptureFlow.Scale

variable {numerator denominator : UInt64}

/-- The quotient in the rational numbers, in millionths and rounded down. -/
def quotient (numerator denominator : UInt64) : Nat :=
  ⌊1000000 * (numerator.toNat : ℚ) / denominator.toNat⌋₊

def largestWord : Nat := 18446744073709551615

/-- The largest numerator whose millionths fit into a word. -/
def largestExact : Nat := 18446744073709

theorem millionths_le_iff (n : Nat) : n * 1000000 ≤ largestWord ↔ n ≤ largestExact := by
  unfold largestWord largestExact
  omega

theorem quotient_eq (numerator denominator : UInt64) :
    quotient numerator denominator = numerator.toNat * 1000000 / denominator.toNat :=
  PreviewTransform.floor_ratio _ _

theorem toNat_pos (divides : denominator ≠ 0) : 0 < denominator.toNat :=
  Nat.pos_of_ne_zero fun zero => divides (UInt64.toNat_inj.mp zero)

theorem ratio?_eq (numerator : UInt64) (divides : denominator ≠ 0) :
    ∃ s, ratio? numerator denominator = some s ∧ s.millionths.toNat =
      min (numerator.toNat * 1000000) largestWord / denominator.toNat := by
  refine ⟨_, if_neg divides, ?_⟩
  rw [UInt64.toNat_div, toNat_saturatingMul]
  rfl

/-- Cutting a number off lowers its quotient exactly if a multiple of the divisor lies in what is
cut off. -/
theorem min_div_lt_iff {n limit d : Nat} (pos : 0 < d) :
    min n limit / d < n / d ↔ ∃ k, limit < k * d ∧ k * d ≤ n := by
  constructor
  · intro less
    have fits : n / d * d ≤ n := Nat.div_mul_le_self n d
    refine ⟨n / d, ?_, fits⟩
    by_contra within
    have kept : n / d ≤ min n limit / d := by
      apply (Nat.le_div_iff_mul_le pos).mpr
      omega
    omega
  · rintro ⟨k, beyond, fits⟩
    have below : min n limit / d < k := by
      apply (Nat.div_lt_iff_lt_mul pos).mpr
      omega
    have reached : k ≤ n / d := (Nat.le_div_iff_mul_le pos).mpr fits
    omega

/-- What a scale in words has of the quotient.  It is the quotient if the millionths of the
numerator fit into a word, and otherwise what the denominator leaves of the largest word.  It falls
short of the quotient exactly if some multiple of the denominator is too large for a word but not
for the millionths of the numerator. -/
structure Approximates (s : Scale) (numerator denominator : UInt64) : Prop where
  exact : numerator.toNat ≤ largestExact → s.millionths.toNat = quotient numerator denominator
  cutOff : largestExact < numerator.toNat →
    s.millionths.toNat = largestWord / denominator.toNat
  le : s.millionths.toNat ≤ quotient numerator denominator
  short : s.millionths.toNat < quotient numerator denominator ↔
    ∃ k, largestWord < k * denominator.toNat ∧
      k * denominator.toNat ≤ numerator.toNat * 1000000

theorem approximates {s : Scale} (divides : denominator ≠ 0) (value : s.millionths.toNat =
    min (numerator.toNat * 1000000) largestWord / denominator.toNat) :
    s.Approximates numerator denominator := by
  have fits := millionths_le_iff numerator.toNat
  refine ⟨fun exact => ?_, fun beyond => ?_, ?_, ?_⟩
  · rw [value, quotient_eq, Nat.min_eq_left (fits.mpr exact)]
  · rw [value, Nat.min_eq_right (by omega)]
  · rw [value, quotient_eq]
    exact Nat.div_le_div_right (Nat.min_le_left _ _)
  · rw [value, quotient_eq]
    exact min_div_lt_iff (toNat_pos divides)

/-- **Ratios round down as far as a word of millionths goes.**  There is a ratio for every
denominator that is not zero, and it is the quotient unless the numerator is beyond the bound and
a multiple of the denominator is lost.  Equal words give a whole up to the bound and no further.  A
ratio below a whole tells that the numerator is the smaller one, unless the denominator is beyond
the bound: then every ratio is below a whole. -/
theorem rounds_down (numerator denominator : UInt64) (divides : denominator ≠ 0) :
    ∃ s, ratio? numerator denominator = some s ∧ s.Approximates numerator denominator ∧
      (numerator = denominator → (s = identity ↔ numerator.toNat ≤ largestExact)) ∧
      (s.millionths < identity.millionths ↔
        numerator < denominator ∨ largestExact < denominator.toNat) := by
  obtain ⟨s, ratio, value⟩ := ratio?_eq numerator divides
  have pos := toNat_pos divides
  have divisor := millionths_le_iff denominator.toNat
  have below : s.millionths < identity.millionths ↔
      numerator < denominator ∨ largestExact < denominator.toNat := by
    rw [UInt64.lt_iff_toNat_lt, UInt64.lt_iff_toNat_lt, value, Nat.div_lt_iff_lt_mul pos]
    change _ < 1000000 * _ ↔ _
    omega
  refine ⟨s, ratio, approximates divides value, ?_, below⟩
  rintro rfl
  constructor
  · rintro rfl
    by_contra beyond
    exact UInt64.lt_irrefl _ (below.mpr (.inr (by omega)))
  · intro exact
    have whole : s.millionths.toNat = 1000000 := by
      rw [value, Nat.min_eq_left (divisor.mpr exact), Nat.mul_div_cancel_left _ pos]
    cases s
    exact congrArg mk (UInt64.toNat_inj.mp whole)

/-- The last word whose ratio to itself is a whole, and beside it a numerator beyond the bound that
loses nothing. -/
theorem rounds_down_bound :
    ratio? 18446744073709 18446744073709 = some identity ∧
    ∃ s, ratio? 18446744073710 3000000 = some s ∧
      s.millionths.toNat = quotient 18446744073710 3000000 := by
  constructor
  · obtain ⟨s, ratio, -, whole, -⟩ := rounds_down 18446744073709 18446744073709 (by decide)
    rw [ratio, (whole rfl).mpr (by decide)]
  · obtain ⟨s, ratio, near, -⟩ := rounds_down 18446744073710 3000000 (by decide)
    refine ⟨s, ratio, Nat.le_antisymm near.le (Nat.not_lt.mp (mt near.short.mp ?_))⟩
    rintro ⟨k, above, within⟩
    change 18446744073709551615 < k * 3000000 at above
    change k * 3000000 ≤ 18446744073710000000 at within
    omega

/-- The largest word divided by itself is a whole, which fits, but its ratio is a millionth. -/
theorem whole_not_kept : ¬ ∀ numerator denominator : UInt64, denominator ≠ 0 →
    quotient numerator denominator ≤ largestWord →
    ∃ s, ratio? numerator denominator = some s ∧
      s.millionths.toNat = quotient numerator denominator := by
  intro rounds
  have whole : quotient 18446744073709551615 18446744073709551615 = 1000000 := by
    rw [quotient_eq]
    rfl
  obtain ⟨s, ratio, value⟩ :=
    rounds 18446744073709551615 18446744073709551615 (by decide) (by rw [whole]; decide)
  have millionth : ratio? 18446744073709551615 18446744073709551615 = some ⟨1⟩ := rfl
  rw [millionth] at ratio
  obtain rfl := Option.some.inj ratio
  rw [whole] at value
  revert value
  decide

end CaptureFlow.Scale
