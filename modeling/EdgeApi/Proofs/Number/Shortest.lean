import EdgeApi.Number.Shortest
import EdgeApi.Proofs.Number.Nearest

/-!
# Decimals that read back

What the search for a short decimal gives lies nearest to the number that it is searched for. The
search does not fail: on a grid of eighteen digits the neighbour above is one that reads back.
-/

set_option autoImplicit false

namespace EdgeApi.Binary64

variable {x : Binary64} {d : Decimal} {e : ℤ} {n : ℕ}

def Decimal.ratio (d : Decimal) : ℚ :=
  d.digits * 10 ^ d.exponent

theorem significand_pos (h : x.isZero = false) : 0 < x.significand := by
  have hBits : x.bits.toNat % 0x8000000000000000 ≠ 0 := by
    simpa [isZero] using h
  rw [significand, biasedExponent, fraction]
  split <;> omega

/-! ## Grids -/

def lowQuarters (x : Binary64) : ℕ :=
  if x.IsNarrow then 4 * x.significand - 1 else 4 * x.significand - 2

theorem bounds_eq (x : Binary64) :
    ∃ c k : ℕ, k ≤ 1076 ∧ (c : ℚ) = 2 ^ (x.scale - 2) * (2 ^ k : ℕ) ∧
      x.bounds =
        (x.lowQuarters * c, 4 * x.significand * c, (4 * x.significand + 2) * c, 2 ^ k) := by
  have hLow : (if x.fraction = 0 ∧ 1 < x.biasedExponent then 4 * x.significand - 1
      else 4 * x.significand - 2) = x.lowQuarters := rfl
  rw [bounds]
  dsimp only
  rw [hLow]
  split
  · rename_i hScale
    refine ⟨2 ^ (x.scale - 2).toNat, 0, Nat.zero_le _, ?_, rfl⟩
    rw [pow_zero, Nat.cast_one, mul_one, Nat.cast_pow, ← zpow_natCast, Int.toNat_of_nonneg hScale]
    norm_num
  · rename_i hScale
    have hLeast := x.le_scale
    refine ⟨1, (-(x.scale - 2)).toNat, by omega, ?_, by simp⟩
    rw [Nat.cast_pow, ← zpow_natCast, Int.toNat_of_nonneg (by omega), Nat.cast_two,
      ← zpow_add₀ (by norm_num), add_neg_cancel, zpow_zero, Nat.cast_one]

/-- A grid of step `10 ^ e` in whole numbers. -/
theorem exists_grid (e : ℤ) (den : ℕ) :
    ∃ up : ℕ, 0 < up ∧ (if 0 ≤ e then 1 else Nat.pow 10 (-e).toNat) = up ∧
      ((if 0 ≤ e then den * Nat.pow 10 e.toNat else den : ℕ) : ℚ) = 10 ^ e * (den * up) := by
  split
  · rename_i hExponent
    refine ⟨1, one_pos, rfl, ?_⟩
    have hPower : ((Nat.pow 10 e.toNat : ℕ) : ℚ) = 10 ^ e := by
      rw [Nat.pow_eq, Nat.cast_pow, ← zpow_natCast, Int.toNat_of_nonneg hExponent]
      norm_num
    rw [Nat.cast_mul, hPower]
    ring
  · rename_i hExponent
    refine ⟨_, Nat.pow_pos (by decide), rfl, ?_⟩
    rw [Nat.cast_pow, ← zpow_natCast, Int.toNat_of_nonneg (by omega), Nat.cast_ofNat,
      mul_comm (den : ℚ), ← mul_assoc, ← zpow_add₀ (by norm_num), add_neg_cancel, zpow_zero, one_mul]

/-- A decimal on a grid is tried by multiplying out the denominators. -/
structure Scaling (x : Binary64) (e : ℤ) (c den up down : ℕ) : Prop where
  den_pos : 0 < den
  up_pos : 0 < up
  unit : (c : ℚ) = 2 ^ (x.scale - 2) * den
  step : (down : ℚ) = 10 ^ e * (den * up)

variable {c den up down : ℕ}

theorem quarter_eq (x : Binary64) : (2 : ℚ) ^ (x.scale - 2) = 2 ^ x.scale / 4 := by
  rw [zpow_sub₀ (by norm_num)]
  norm_num

theorem lowQuarters_mul (hx : 0 < x.significand) :
    (x.lowQuarters : ℚ) * 2 ^ (x.scale - 2) = x.magnitude - x.gapBelow / 2 := by
  have hHalf : (2 : ℚ) ^ (x.scale - 1) = 2 ^ x.scale / 2 := by
    rw [zpow_sub₀ (by norm_num)]
    norm_num
  rw [lowQuarters, gapBelow, magnitude, quarter_eq]
  split
  · rw [Nat.cast_sub (by omega), hHalf]
    push_cast
    ring
  · rw [Nat.cast_sub (by omega)]
    push_cast
    ring

namespace Scaling

variable (h : Scaling x e c den up down)

include h

theorem pos : (0 : ℚ) < den * up := by
  have hDen := h.den_pos
  have hUp := h.up_pos
  positivity

theorem cast_decimal (n : ℕ) : ((n * down : ℕ) : ℚ) = n * 10 ^ e * (den * up) := by
  rw [Nat.cast_mul, h.step, mul_assoc]

theorem cast_quarters (n : ℕ) :
    ((n * c * up : ℕ) : ℚ) = n * 2 ^ (x.scale - 2) * (den * up) := by
  rw [Nat.cast_mul, Nat.cast_mul, h.unit]
  ring

theorem le_iff (n k : ℕ) : n * c * up ≤ k * down ↔ (n : ℚ) * 2 ^ (x.scale - 2) ≤ k * 10 ^ e := by
  rw [← Nat.cast_le (α := ℚ), h.cast_quarters, h.cast_decimal, mul_le_mul_iff_left₀ h.pos]

theorem ge_iff (n k : ℕ) : k * down ≤ n * c * up ↔ (k : ℚ) * 10 ^ e ≤ n * 2 ^ (x.scale - 2) := by
  rw [← Nat.cast_le (α := ℚ), h.cast_quarters, h.cast_decimal, mul_le_mul_iff_left₀ h.pos]

theorem lt_iff (n k : ℕ) : n * c * up < k * down ↔ (n : ℚ) * 2 ^ (x.scale - 2) < k * 10 ^ e := by
  rw [← not_le, h.ge_iff, not_le]

theorem gt_iff (n k : ℕ) : k * down < n * c * up ↔ (k : ℚ) * 10 ^ e < n * 2 ^ (x.scale - 2) := by
  rw [← not_le, h.le_iff, not_le]

/-- A decimal is inside the bounds exactly if it rounds to the number. -/
theorem inside_iff (hx : 0 < x.significand) (k : ℕ) :
    (if x.significand % 2 = 0 then
        decide (x.lowQuarters * c * up ≤ k * down ∧ k * down ≤ (4 * x.significand + 2) * c * up)
      else
        decide (x.lowQuarters * c * up < k * down ∧ k * down < (4 * x.significand + 2) * c * up)) =
      true ↔ x.Rounds (k * 10 ^ e) := by
  have hHigh : ((4 * x.significand + 2 : ℕ) : ℚ) * 2 ^ (x.scale - 2) =
      x.magnitude + 2 ^ x.scale / 2 := by
    rw [magnitude, quarter_eq]
    push_cast
    ring
  split
  · rename_i hEven
    rw [decide_eq_true_iff, h.le_iff, h.ge_iff, lowQuarters_mul hx, hHigh]
    constructor
    · rintro ⟨hBelow, hAbove⟩
      exact ⟨hBelow, hAbove, fun hOdd => absurd hEven hOdd⟩
    · intro hRounds
      exact ⟨hRounds.below, hRounds.above⟩
  · rename_i hOdd
    rw [decide_eq_true_iff, h.lt_iff, h.gt_iff, lowQuarters_mul hx, hHigh]
    constructor
    · rintro ⟨hBelow, hAbove⟩
      exact ⟨hBelow.le, hAbove.le, fun _ => ⟨hBelow, hAbove⟩⟩
    · intro hRounds
      exact hRounds.odd hOdd

end Scaling

theorem exists_scaling (x : Binary64) (e : ℤ) :
    ∃ c den up down, Scaling x e c den up down ∧
      x.bounds =
        (x.lowQuarters * c, 4 * x.significand * c, (4 * x.significand + 2) * c, den) ∧
      (if 0 ≤ e then 1 else Nat.pow 10 (-e).toNat) = up ∧
      (if 0 ≤ e then den * Nat.pow 10 e.toNat else den) = down := by
  obtain ⟨c, k, -, hUnit, hBounds⟩ := x.bounds_eq
  obtain ⟨up, hPositive, hUp, hStep⟩ := exists_grid e (2 ^ k)
  exact ⟨c, 2 ^ k, up, _, ⟨Nat.two_pow_pos k, hPositive, hUnit, hStep⟩, hBounds, hUp, rfl⟩

theorem rounds_of_onGrid (hx : 0 < x.significand) (h : x.onGrid e = some d) :
    d.digits ≠ 0 ∧ x.Rounds d.ratio := by
  obtain ⟨c, den, up, down, hScaling, hBounds, hUp, hDown⟩ := exists_scaling x e
  rw [onGrid, hBounds] at h
  simp only [hUp, hDown] at h
  split at h
  · rename_i hBelow hAbove
    rw [Bool.and_eq_true, bne_iff_ne, hScaling.inside_iff hx] at hBelow
    rw [hScaling.inside_iff hx] at hAbove
    split at h
    · cases h
      exact ⟨hBelow.2, hBelow.1⟩
    · split at h
      · cases h
        exact ⟨Nat.succ_ne_zero _, hAbove⟩
      · split at h <;> cases h
        · exact ⟨hBelow.2, hBelow.1⟩
        · exact ⟨Nat.succ_ne_zero _, hAbove⟩
  · rename_i hBelow _
    rw [Bool.and_eq_true, bne_iff_ne, hScaling.inside_iff hx] at hBelow
    cases h
    exact ⟨hBelow.2, hBelow.1⟩
  · rename_i hAbove
    rw [hScaling.inside_iff hx] at hAbove
    cases h
    exact ⟨Nat.succ_ne_zero _, hAbove⟩
  · cases h

theorem Scaling.down_pos (h : Scaling x e c den up down) : 0 < down := by
  have hPositive : (0 : ℚ) < down := by
    have hDen := h.pos
    rw [h.step]
    positivity
  exact_mod_cast hPositive

/-- A grid that is fine enough has a decimal above the number that rounds to it. -/
theorem Scaling.rounds_above (h : Scaling x e c den up down)
    (hStep : (10 : ℚ) ^ e < 2 ^ x.scale / 2) :
    x.Rounds ((4 * x.significand * c * up / down + 1 : ℕ) * 10 ^ e) := by
  have hQuarters : ((4 * x.significand : ℕ) : ℚ) * 2 ^ (x.scale - 2) = x.magnitude := by
    rw [magnitude, quarter_eq]
    push_cast
    ring
  have hBelow := (h.ge_iff (4 * x.significand) _).mp (Nat.div_mul_le_self _ down)
  have hLess : 4 * x.significand * c * up < (4 * x.significand * c * up / down + 1) * down := by
    rw [Nat.add_mul, Nat.one_mul]
    exact Nat.lt_div_mul_add h.down_pos
  have hAbove := (h.lt_iff _ _).mp hLess
  rw [hQuarters] at hBelow hAbove
  push_cast at hAbove ⊢
  have hGap : 0 < x.gapBelow := by
    rw [gapBelow]
    split <;> positivity
  have hNear : (((4 * x.significand * c * up / down : ℕ) : ℚ) + 1) * 10 ^ e <
      x.magnitude + 2 ^ x.scale / 2 := by
    linarith
  exact ⟨by linarith, hNear.le, fun _ => ⟨by linarith, hNear⟩⟩

theorem onGrid_ne_none (hx : 0 < x.significand) (hStep : (10 : ℚ) ^ e < 2 ^ x.scale / 2) :
    x.onGrid e ≠ none := by
  obtain ⟨c, den, up, down, hScaling, hBounds, hUp, hDown⟩ := exists_scaling x e
  have hHit := (hScaling.inside_iff hx _).mpr (hScaling.rounds_above hStep)
  intro h
  rw [onGrid, hBounds] at h
  simp only [hUp, hDown] at h
  split at h
  · split at h
    · cases h
    · split at h
      · cases h
      · split at h <;> cases h
  · cases h
  · cases h
  · rename_i hMiss
    rw [hHit] at hMiss
    cases hMiss

/-! ## The search -/

theorem le_mul_tenfolds {den fuel n : ℕ} (h : den ≤ n * 10 ^ fuel) :
    den ≤ n * 10 ^ tenfoldsUpTo den fuel n := by
  induction fuel generalizing n with
  | zero => exact h
  | succ fuel ih =>
    rw [tenfoldsUpTo]
    split
    · rename_i hReached
      rwa [pow_zero, mul_one]
    · rw [pow_succ', ← mul_assoc]
      apply ih
      rwa [pow_succ', ← mul_assoc] at h

theorem pow_length_toDigits_le {n : ℕ} (h : n ≠ 0) : 10 ^ ((Nat.toDigits 10 n).length - 1) ≤ n := by
  by_cases hOne : (Nat.toDigits 10 n).length - 1 = 0
  · rw [hOne, pow_zero]
    omega
  · by_contra hLess
    have hShort := (Nat.length_toDigits_le_iff (by decide) (by omega)).mpr (not_le.mp hLess)
    omega

theorem two_pow_le_ten_pow {k n : ℕ} (h : k ≤ 3 * n) : 2 ^ k ≤ 10 ^ n := by
  calc 2 ^ k ≤ 2 ^ (3 * n) := Nat.pow_le_pow_right (by decide) h
    _ = (2 ^ 3) ^ n := pow_mul 2 3 n
    _ ≤ 10 ^ n := Nat.pow_le_pow_left (by decide) n

/-- The leading digit stands below the number. The fuel lasts for the denominators of the format. -/
theorem pow_leadingExponent_le {num k : ℕ} (hNum : num ≠ 0) (hk : k ≤ 1076) :
    (10 : ℚ) ^ leadingExponent num (2 ^ k) ≤ num / (2 ^ k : ℕ) := by
  have hDen : 0 < 2 ^ k := Nat.two_pow_pos k
  have hPositive : (0 : ℚ) < (2 ^ k : ℕ) := by exact_mod_cast hDen
  have hFuel : 2 ^ k ≤ 10 ^ 400 := two_pow_le_ten_pow (by omega)
  rw [leadingExponent, le_div_iff₀ hPositive]
  split
  · rename_i hLarge
    have hQuotient : num / 2 ^ k ≠ 0 := (Nat.div_pos hLarge hDen).ne'
    have hDigits := (Nat.le_div_iff_mul_le hDen).mp (pow_length_toDigits_le hQuotient)
    have hLength : 1 ≤ (Nat.toDigits 10 (num / 2 ^ k)).length := Nat.length_toDigits_pos
    rw [← Nat.cast_one, ← Nat.cast_sub hLength, zpow_natCast]
    exact_mod_cast hDigits
  · have hReached : 2 ^ k ≤ num * 10 ^ tenfoldsUpTo (2 ^ k) 400 num :=
      le_mul_tenfolds (hFuel.trans (Nat.le_mul_of_pos_left _ (Nat.pos_of_ne_zero hNum)))
    rw [zpow_neg, zpow_natCast, inv_mul_le_iff₀ (by positivity), mul_comm]
    exact_mod_cast hReached

/-- The search ends on the first grid that has a decimal. -/
theorem rounds_of_searchGrid (hx : 0 < x.significand) {lead : ℤ} {fuel n hit : ℕ} (hFrom : n ≤ hit)
    (hFuel : hit < n + fuel) (hHit : x.onGrid (lead - hit) ≠ none) :
    (searchGrid x lead fuel n).digits ≠ 0 ∧ x.Rounds (searchGrid x lead fuel n).ratio := by
  induction fuel generalizing n with
  | zero => omega
  | succ fuel ih =>
    rw [searchGrid]
    split
    · rename_i hFound
      exact rounds_of_onGrid hx hFound
    · rename_i hMiss
      have hLater : n ≠ hit := by
        rintro rfl
        exact hHit hMiss
      exact ih (by omega) (by omega)

theorem rounds_shortest (hx : x.isZero = false) :
    x.shortest.digits ≠ 0 ∧ x.Rounds x.shortest.ratio := by
  have hPositive := significand_pos hx
  obtain ⟨c, k, hk, hUnit, hBounds⟩ := x.bounds_eq
  have hDenominator : (0 : ℚ) < (2 ^ k : ℕ) := by positivity
  have hValue : ((4 * x.significand * c : ℕ) : ℚ) / (2 ^ k : ℕ) = x.magnitude := by
    rw [div_eq_iff hDenominator.ne', Nat.cast_mul, hUnit, magnitude, quarter_eq]
    push_cast
    ring
  have hUnitPositive : 0 < c := by
    have hCast : (0 : ℚ) < c := by
      rw [hUnit]
      positivity
    exact_mod_cast hCast
  have hNumerator : 4 * x.significand * c ≠ 0 := by positivity
  have hLead := pow_leadingExponent_le hNumerator hk
  rw [hValue, magnitude] at hLead
  rw [shortest, hBounds]
  have hHit : (17 : ℕ) < 0 + 18 := by decide
  refine rounds_of_searchGrid hPositive (Nat.zero_le _) hHit (onGrid_ne_none hPositive ?_)
  have hScale : (0 : ℚ) < 2 ^ x.scale := by positivity
  have hSignificand : (x.significand : ℚ) < 0x20000000000000 := by
    exact_mod_cast x.significand_lt
  rw [zpow_sub₀ (by norm_num), div_lt_iff₀ (by positivity)]
  calc (10 : ℚ) ^ leadingExponent (4 * x.significand * c) (2 ^ k)
      ≤ x.significand * 2 ^ x.scale := hLead
    _ < 0x20000000000000 * 2 ^ x.scale := by gcongr
    _ ≤ 2 ^ x.scale / 2 * 10 ^ ((17 : ℕ) : ℤ) := by
      norm_num
      linarith

/-! ## Trailing zeros -/

theorem trimZeros_spec (fuel n : ℕ) (e : ℤ) (h : n ≠ 0) :
    (trimZeros fuel n e).digits ≠ 0 ∧
      (trimZeros fuel n e).ratio = Decimal.ratio ⟨n, e⟩ := by
  induction fuel generalizing n e with
  | zero => exact ⟨h, rfl⟩
  | succ fuel ih =>
    rw [trimZeros]
    split
    · rename_i hTen
      obtain ⟨m, rfl⟩ := Nat.dvd_of_mod_eq_zero hTen.1
      rw [Nat.mul_div_cancel_left m (by decide)]
      obtain ⟨hFilled, hRatio⟩ := ih m (e + 1) (by omega)
      refine ⟨hFilled, hRatio.trans ?_⟩
      rw [Decimal.ratio, Decimal.ratio, zpow_add_one₀ (by norm_num)]
      push_cast
      ring
    · exact ⟨h, rfl⟩

/-- The shortest decimal lies nearest to the number. -/
theorem isNearest_shortest (hx : x.isZero = false) :
    x.shortest.reduce.digits ≠ 0 ∧ x.IsNearest x.shortest.reduce.ratio := by
  obtain ⟨hFilled, hRounds⟩ := rounds_shortest hx
  obtain ⟨hKept, hRatio⟩ :=
    trimZeros_spec (Nat.log2 x.shortest.digits) x.shortest.digits x.shortest.exponent hFilled
  exact ⟨hKept, hRatio ▸ hRounds.isNearest⟩

end EdgeApi.Binary64
