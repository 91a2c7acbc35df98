import EdgeApi.Number.Binary64
import Mathlib.Algebra.Order.Field.Power
import Mathlib.Tactic.Linarith
import Mathlib.Tactic.NormNum
import Mathlib.Tactic.Positivity
import Mathlib.Tactic.Ring

/-!
# Nearest numbers

The magnitudes of the format as ratios, how far they are apart, and what lies nearest to one of them.
-/

set_option autoImplicit false

namespace EdgeApi.Binary64

variable {x y : Binary64} {v : ℚ} {s : ℤ}

/-! ## Magnitudes -/

def magnitude (x : Binary64) : ℚ :=
  x.significand * 2 ^ x.scale

theorem fraction_lt (x : Binary64) : x.fraction < 0x10000000000000 :=
  Nat.mod_lt _ (by decide)

theorem significand_lt (x : Binary64) : x.significand < 0x20000000000000 := by
  have hFraction := x.fraction_lt
  rw [significand]
  split <;> omega

theorem le_scale (x : Binary64) : -1074 ≤ x.scale := by
  rw [scale]
  split <;> omega

theorem biasedExponent_of_scale (h : -1074 < x.scale) : 1 < x.biasedExponent := by
  rw [scale] at h
  split at h <;> omega

theorem significand_of_biasedExponent (h : 1 < x.biasedExponent) :
    x.significand = 0x10000000000000 + x.fraction :=
  if_neg (by omega)

/-- A magnitude is a whole number of the steps of a smaller scale. -/
theorem exists_magnitude_eq (h : s ≤ x.scale) : ∃ n : ℕ, x.magnitude = n * 2 ^ s := by
  obtain ⟨k, hk⟩ := Int.eq_ofNat_of_zero_le (Int.sub_nonneg.mpr h)
  have hScale : x.scale = k + s := by omega
  refine ⟨x.significand * 2 ^ k, ?_⟩
  rw [magnitude, hScale, zpow_add₀ (by norm_num), zpow_natCast]
  push_cast
  ring

/-- Below the scale of a number all magnitudes are smaller, by at least half a step. -/
theorem magnitude_add_half_le (h : y.scale < x.scale) :
    y.magnitude + 2 ^ (x.scale - 1) ≤ 0x10000000000000 * 2 ^ x.scale := by
  have hScale : (2 : ℚ) ^ x.scale = 2 * 2 ^ (x.scale - 1) := by
    rw [← zpow_one_add₀ (by norm_num)]
    congr 1
    omega
  have hMore : (2 : ℚ) ^ y.scale ≤ 2 ^ (x.scale - 1) :=
    zpow_le_zpow_right₀ (by norm_num) (by omega)
  have hLess : (y.significand : ℚ) + 1 ≤ 0x20000000000000 := by
    exact_mod_cast y.significand_lt
  calc y.magnitude + 2 ^ (x.scale - 1)
      ≤ y.significand * 2 ^ (x.scale - 1) + 2 ^ (x.scale - 1) := by
        rw [magnitude]
        gcongr
    _ = (y.significand + 1) * 2 ^ (x.scale - 1) := by ring
    _ ≤ 0x20000000000000 * 2 ^ (x.scale - 1) := by gcongr
    _ = 0x10000000000000 * 2 ^ x.scale := by rw [hScale]; ring

/-! ## Neighbours -/

def IsNarrow (x : Binary64) : Prop :=
  x.fraction = 0 ∧ 1 < x.biasedExponent

instance (x : Binary64) : Decidable x.IsNarrow :=
  inferInstanceAs (Decidable (_ ∧ _))

def gapBelow (x : Binary64) : ℚ :=
  if x.IsNarrow then 2 ^ (x.scale - 1) else 2 ^ x.scale

theorem gapBelow_le (x : Binary64) : x.gapBelow ≤ 2 ^ x.scale := by
  rw [gapBelow]
  split
  · exact zpow_le_zpow_right₀ (by norm_num) (by omega)
  · exact le_refl _

theorem significand_mul_lt {n : ℕ} (h : x.magnitude < n * 2 ^ x.scale) :
    x.magnitude + 2 ^ x.scale ≤ n * 2 ^ x.scale := by
  have hStep : (0 : ℚ) < 2 ^ x.scale := by positivity
  rw [magnitude] at h ⊢
  have hLess : x.significand + 1 ≤ n := by
    exact_mod_cast lt_of_mul_lt_mul_right h hStep.le
  have hCast : (x.significand : ℚ) + 1 ≤ n := by exact_mod_cast hLess
  calc (x.significand : ℚ) * 2 ^ x.scale + 2 ^ x.scale = (x.significand + 1) * 2 ^ x.scale := by ring
    _ ≤ n * 2 ^ x.scale := by gcongr

theorem magnitude_add_step_le (h : x.magnitude < y.magnitude) :
    x.magnitude + 2 ^ x.scale ≤ y.magnitude := by
  by_cases hScale : x.scale ≤ y.scale
  · obtain ⟨n, hn⟩ := exists_magnitude_eq hScale
    rw [hn] at h ⊢
    exact significand_mul_lt h
  · have hLess := not_le.mp hScale
    have hHalf := magnitude_add_half_le hLess
    have hPositive : (0 : ℚ) < 2 ^ (x.scale - 1) := by positivity
    have hWide := biasedExponent_of_scale (lt_of_le_of_lt y.le_scale hLess)
    have hSignificand : (0x10000000000000 : ℚ) ≤ x.significand := by
      rw [significand_of_biasedExponent hWide]
      push_cast
      linarith [(Nat.cast_nonneg x.fraction : (0 : ℚ) ≤ x.fraction)]
    have hLarge : 0x10000000000000 * (2 : ℚ) ^ x.scale ≤ x.magnitude := by
      rw [magnitude]
      gcongr
    linarith

theorem magnitude_add_gap_le (h : y.magnitude < x.magnitude) :
    y.magnitude + x.gapBelow ≤ x.magnitude := by
  by_cases hScale : x.scale ≤ y.scale
  · have hGap := x.gapBelow_le
    obtain ⟨n, hn⟩ := exists_magnitude_eq hScale
    have hStep : (0 : ℚ) < 2 ^ x.scale := by positivity
    rw [hn, magnitude] at h ⊢
    have hLess : (n : ℚ) + 1 ≤ x.significand := by
      exact_mod_cast lt_of_mul_lt_mul_right h hStep.le
    have hMore : ((n : ℚ) + 1) * 2 ^ x.scale ≤ x.significand * 2 ^ x.scale := by gcongr
    linarith
  · have hLess := not_le.mp hScale
    have hHalf := magnitude_add_half_le hLess
    have hWide := biasedExponent_of_scale (lt_of_le_of_lt y.le_scale hLess)
    have hSignificand := significand_of_biasedExponent hWide
    rw [gapBelow, magnitude.eq_1 x, hSignificand]
    split
    · rename_i hNarrow
      rw [hNarrow.1]
      push_cast
      linarith
    · rename_i hNarrow
      have hFraction : (1 : ℚ) ≤ x.fraction := by
        exact_mod_cast Nat.one_le_iff_ne_zero.mpr fun hZero => hNarrow ⟨hZero, hWide⟩
      have hPositive : (0 : ℚ) < 2 ^ (x.scale - 1) := by positivity
      have hMore : (1 : ℚ) * 2 ^ x.scale ≤ x.fraction * 2 ^ x.scale := by gcongr
      push_cast
      linarith

/-! ## Nearness -/

/-- No other magnitude is nearer to the ratio, and none is as near unless the significand is even. -/
def IsNearest (x : Binary64) (v : ℚ) : Prop :=
  ∀ y : Binary64, y.magnitude ≠ x.magnitude →
    |v - x.magnitude| < |v - y.magnitude| ∨
      |v - x.magnitude| = |v - y.magnitude| ∧ x.significand % 2 = 0

theorem isNearest_magnitude (x : Binary64) : x.IsNearest x.magnitude := by
  intro y hOther
  left
  rw [sub_self, abs_zero, abs_pos, sub_ne_zero]
  exact hOther.symm

/-- The ratio lies between the middles to the neighbours, and may be one of them if the significand
is even. -/
structure Rounds (x : Binary64) (v : ℚ) : Prop where
  below : x.magnitude - x.gapBelow / 2 ≤ v
  above : v ≤ x.magnitude + 2 ^ x.scale / 2
  odd : x.significand % 2 ≠ 0 →
    x.magnitude - x.gapBelow / 2 < v ∧ v < x.magnitude + 2 ^ x.scale / 2

theorem Rounds.isNearest (h : x.Rounds v) : x.IsNearest v := by
  intro y hOther
  have hFar : |v - x.magnitude| ≤ |v - y.magnitude| ∧
      (x.significand % 2 ≠ 0 → |v - x.magnitude| < |v - y.magnitude|) := by
    have hBelow := h.below
    have hAbove := h.above
    have hPositive : (0 : ℚ) < 2 ^ x.scale := by positivity
    rcases lt_or_gt_of_ne hOther with hLess | hMore
    · have hGap := magnitude_add_gap_le hLess
      have hSide : 0 ≤ v - y.magnitude := by linarith [x.gapBelow_le]
      rw [abs_of_nonneg hSide]
      refine ⟨abs_le.mpr ⟨by linarith, by linarith⟩, ?_⟩
      intro hOdd
      obtain ⟨hLow, hHigh⟩ := h.odd hOdd
      exact abs_lt.mpr ⟨by linarith, by linarith⟩
    · have hGap := magnitude_add_step_le hMore
      have hSide : v - y.magnitude ≤ 0 := by linarith
      rw [abs_of_nonpos hSide]
      refine ⟨abs_le.mpr ⟨by linarith [x.gapBelow_le], by linarith⟩, ?_⟩
      intro hOdd
      obtain ⟨hLow, hHigh⟩ := h.odd hOdd
      exact abs_lt.mpr ⟨by linarith [x.gapBelow_le], by linarith⟩
  by_cases hEven : x.significand % 2 = 0
  · rcases lt_or_eq_of_le hFar.1 with hLess | hEq
    · exact .inl hLess
    · exact .inr ⟨hEq, hEven⟩
  · exact .inl (hFar.2 hEven)

end EdgeApi.Binary64
