import EdgeApi.Time.Duration

/-!
# Products of durations

A duration times a number is the product of its nanoseconds, as long as that is a duration.
-/

set_option autoImplicit false

namespace EdgeApi.Duration

theorem exists_ofNat? {n : Nat} (h : n ≤ longest) : ∃ d, ofNat? n = some d ∧ d.toNat = n := by
  have hSeconds : n / 1000000000 < UInt64.size := by
    simp only [longest, UInt64.size] at *
    omega
  have hRest : n % 1000000000 < UInt32.size :=
    Nat.lt_trans (Nat.mod_lt n (by decide)) (by decide)
  refine ⟨_, if_pos h, ?_⟩
  simp only [toNat, UInt64.toNat_ofNat_of_lt' hSeconds, UInt32.toNat_ofNat_of_lt' hRest]
  omega

theorem ofNat?_eq_none {n : Nat} (h : longest < n) : ofNat? n = none :=
  if_neg (Nat.not_le.mpr h)

theorem map_toNat_addWords? (a b : UInt64) :
    (addWords? a b).map UInt64.toNat =
      if a.toNat + b.toNat < UInt64.size then some (a.toNat + b.toNat) else none := by
  unfold addWords?
  split
  · rename_i hFits
    rw [Option.map_some, UInt64.toNat_add, Nat.mod_eq_of_lt hFits]
  · rfl

theorem map_toNat_mulWords? (a b : UInt64) :
    (mulWords? a b).map UInt64.toNat =
      if a.toNat * b.toNat < UInt64.size then some (a.toNat * b.toNat) else none := by
  unfold mulWords?
  split
  · rename_i hFits
    rw [Option.map_some, UInt64.toNat_mul, Nat.mod_eq_of_lt hFits]
  · rfl

theorem map_toNat_carried? (seconds nanoseconds : UInt64) :
    (carried? seconds nanoseconds).map toNat =
      if seconds.toNat * 1000000000 + nanoseconds.toNat ≤ longest then
        some (seconds.toNat * 1000000000 + nanoseconds.toNat)
      else none := by
  have hRest : (nanoseconds % 1000000000).toUInt32.toNat = nanoseconds.toNat % 1000000000 := by
    simp only [UInt64.toNat_toUInt32, UInt64.toNat_mod, UInt64.reduceToNat]
    omega
  have hAdd := map_toNat_addWords? seconds (nanoseconds / 1000000000)
  simp only [UInt64.toNat_div, UInt64.reduceToNat] at hAdd
  rw [carried?]
  cases hSum : addWords? seconds (nanoseconds / 1000000000) with
  | none =>
    have hLarge : ¬seconds.toNat + nanoseconds.toNat / 1000000000 < UInt64.size := by
      simpa [hSum] using hAdd
    rw [if_neg (by simp only [longest, UInt64.size] at *; omega)]
    rfl
  | some sum =>
    obtain ⟨hSmall, hTotal⟩ : seconds.toNat + nanoseconds.toNat / 1000000000 < UInt64.size ∧
        sum.toNat = seconds.toNat + nanoseconds.toNat / 1000000000 := by
      simpa [hSum] using hAdd
    rw [if_pos (by simp only [longest, UInt64.size] at *; omega)]
    apply congrArg some
    change sum.toNat * 1000000000 + (nanoseconds % 1000000000).toUInt32.toNat = _
    rw [hRest, hTotal]
    omega

/-- The nanoseconds below a second have a product that fits a word. -/
theorem toNat_mul_nanoseconds (d : Duration) (n : UInt32) :
    (d.nanoseconds.toUInt64 * n.toUInt64).toNat = d.nanoseconds.toNat * n.toNat := by
  rw [UInt64.toNat_mul, UInt32.toNat_toUInt64, UInt32.toNat_toUInt64]
  apply Nat.mod_eq_of_lt
  calc d.nanoseconds.toNat * n.toNat < 1000000000 * 2 ^ 32 :=
        Nat.mul_lt_mul_of_lt_of_le d.nanoseconds_lt (Nat.le_of_lt n.toNat_lt) (by decide)
    _ < 2 ^ 64 := by decide

theorem map_toNat_times? (d : Duration) (n : UInt32) :
    (d.times? n).map toNat =
      if d.toNat * n.toNat ≤ longest then some (d.toNat * n.toNat) else none := by
  have hProduct : d.toNat * n.toNat =
      d.seconds.toNat * n.toNat * 1000000000 + d.nanoseconds.toNat * n.toNat := by
    rw [toNat, Nat.add_mul, Nat.mul_right_comm]
  have hMul := map_toNat_mulWords? d.seconds n.toUInt64
  rw [UInt32.toNat_toUInt64] at hMul
  rw [times?, hProduct]
  cases hSeconds : mulWords? d.seconds n.toUInt64 with
  | none =>
    have hLarge : ¬d.seconds.toNat * n.toNat < UInt64.size := by simpa [hSeconds] using hMul
    rw [if_neg (by simp only [longest, UInt64.size] at *; omega)]
    rfl
  | some seconds =>
    obtain ⟨-, hWhole⟩ :
        d.seconds.toNat * n.toNat < UInt64.size ∧ seconds.toNat = d.seconds.toNat * n.toNat := by
      simpa [hSeconds] using hMul
    rw [← hWhole, ← d.toNat_mul_nanoseconds]
    exact map_toNat_carried? seconds _

end EdgeApi.Duration
