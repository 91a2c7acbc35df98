import EdgeApi.Proofs.Client.Fetches
import EdgeApi.Proofs.Time.Duration
import Mathlib.Algebra.BigOperators.Ring.Finset
import Mathlib.Tactic.Ring

/-!
# Backoff

The waits of a schedule double with every other fetch, at most 31 times, and are exact as long as
there is a duration that long. So they never get shorter, and all that is waited before a schedule
runs out is known beforehand.
-/

set_option autoImplicit false

namespace EdgeApi

open Client

namespace Schedule

/-- The waits before so many fetches together, where none of them overflows. -/
def total (base n : Nat) : Nat :=
  if n ≤ 64 then base * (2 ^ ((n + 1) / 2) + 2 ^ (n / 2) - 2)
  else base * (2 ^ 33 - 2 + (n - 64) * 2 ^ 31)

variable {schedule : Schedule} {step : Nat}

theorem toNat_factor (step : Nat) : (factor step).toNat = 2 ^ min (step / 2) 31 := by
  have hAmount : min (step / 2) 31 < 32 := Nat.lt_succ_of_le (Nat.min_le_right _ _)
  simp only [factor, UInt32.toNat_shiftLeft, UInt32.reduceToNat, Nat.one_shiftLeft,
    UInt32.toNat_ofNat_of_lt' (Nat.lt_trans hAmount (by decide)), Nat.mod_eq_of_lt hAmount]
  exact Nat.mod_eq_of_lt (Nat.pow_lt_pow_right (by decide) hAmount)

theorem delay_eq (schedule : Schedule) (step : Nat) :
    schedule.delay step =
      if schedule.base * 2 ^ min (step / 2) 31 ≤ Duration.longest then
        some (schedule.base * 2 ^ min (step / 2) 31)
      else none := by
  rw [delay, ← toNat_factor]
  by_cases hBase : schedule.base ≤ Duration.longest
  · obtain ⟨base, hSome, hNat⟩ := Duration.exists_ofNat? hBase
    rw [hSome, ← hNat, ← Duration.map_toNat_times?]
    cases hWait : base.times? (factor step) <;> simp [hWait]
  · have hPos : 0 < (factor step).toNat := by
      rw [toNat_factor]
      exact Nat.two_pow_pos _
    have hLarge : Duration.longest < schedule.base := Nat.not_le.mp hBase
    rw [Duration.ofNat?_eq_none hLarge, if_neg]
    · rfl
    · exact Nat.not_le.mpr (Nat.lt_of_lt_of_le hLarge (Nat.le_mul_of_pos_right _ hPos))

theorem exists_delay_le {i j d : Nat} (hStep : i ≤ j) (h : schedule.delay j = some d) :
    ∃ e, schedule.delay i = some e ∧ e ≤ d := by
  have hPower : 2 ^ min (i / 2) 31 ≤ 2 ^ min (j / 2) 31 :=
    Nat.pow_le_pow_right (by decide) (by omega)
  have hProduct := Nat.mul_le_mul_left schedule.base hPower
  rw [delay_eq] at h ⊢
  split at h
  · rename_i hFits
    cases h
    exact ⟨_, if_pos (Nat.le_trans hProduct hFits), hProduct⟩
  · cases h

theorem getD_delay (h : schedule.delay step ≠ none) :
    (schedule.delay step).getD 0 = schedule.base * 2 ^ min (step / 2) 31 := by
  rw [delay_eq] at h ⊢
  split
  · rfl
  · rename_i hLarge
    simp [hLarge] at h

/-! ## Sums -/

theorem sum_doubling (n : Nat) :
    ∑ k ∈ Finset.range n, 2 ^ (k / 2) + 2 = 2 ^ ((n + 1) / 2) + 2 ^ (n / 2) := by
  induction n with
  | zero => rfl
  | succ n ih =>
    have hHalf : (n + 1 + 1) / 2 = n / 2 + 1 := by omega
    rw [Finset.sum_range_succ, hHalf, pow_succ]
    omega

theorem sum_capped (n : Nat) :
    ∑ k ∈ Finset.range n, 2 ^ min (k / 2) 31 = total 1 n := by
  have hDoubling : ∀ m ≤ 64, ∑ k ∈ Finset.range m, 2 ^ min (k / 2) 31 =
      2 ^ ((m + 1) / 2) + 2 ^ (m / 2) - 2 := by
    intro m hm
    have hUncapped : ∑ k ∈ Finset.range m, 2 ^ min (k / 2) 31 = ∑ k ∈ Finset.range m, 2 ^ (k / 2) := by
      apply Finset.sum_congr rfl
      intro k hk
      have hLess := Finset.mem_range.mp hk
      rw [Nat.min_eq_left (by omega)]
    have hSum := sum_doubling m
    omega
  rw [total]
  split
  · rename_i hFew
    rw [hDoubling n hFew, Nat.one_mul]
  · rename_i hMany
    obtain ⟨more, rfl⟩ := Nat.exists_eq_add_of_le (Nat.le_of_not_le hMany)
    clear hMany
    rw [Nat.add_sub_cancel_left]
    induction more with
    | zero =>
      rw [hDoubling 64 (Nat.le_refl _)]
      rfl
    | succ more ih =>
      have hCap : min ((64 + more) / 2) 31 = 31 := Nat.min_eq_right (by omega)
      rw [← Nat.add_assoc, Finset.sum_range_succ, ih, hCap]
      omega

theorem sum_delays {n : Nat} (h : ∀ k < n, schedule.delay k ≠ none) :
    ∑ k ∈ Finset.range n, (schedule.delay k).getD 0 = total schedule.base n := by
  calc ∑ k ∈ Finset.range n, (schedule.delay k).getD 0
      = ∑ k ∈ Finset.range n, schedule.base * 2 ^ min (k / 2) 31 := by
        apply Finset.sum_congr rfl
        intro k hk
        exact getD_delay (h k (Finset.mem_range.mp hk))
    _ = schedule.base * total 1 n := by rw [← Finset.mul_sum, sum_capped]
    _ = total schedule.base n := by
        unfold total
        split <;> rw [Nat.one_mul]

end Schedule

/-! ## Runs -/

/-- Each fetch takes its time, and leaves nothing that cancels what comes after. -/
def TakesTime (fetch : Nat → Client BulkOperation) (latency : Nat → Nat) : Prop :=
  ∀ step s, s.Calm →
    ((fetch step).run s).2.Calm ∧ ((fetch step).run s).2.now = s.now + latency step

namespace Schedule

variable {schedule : Schedule} {fetch : Nat → Client BulkOperation} {latency : Nat → Nat}
  {s : Session}

theorem now_after (hCalm : s.Calm) (hFetch : TakesTime fetch latency) (n : Nat) :
    (schedule.after fetch s n).now = s.now + ∑ k ∈ Finset.range n, (schedule.delay k).getD 0 +
      ∑ k ∈ Finset.range n, latency k := by
  induction n with
  | zero => rfl
  | succ n ih =>
    have hAfter : (schedule.after fetch s n).Calm :=
      calm_after hCalm (fun step s h => (hFetch step s h).1) n
    rw [after, run_telling, Session.now_tell, (hFetch n _ (hAfter.pass _)).2, hAfter.pass_eq]
    change (schedule.after fetch s n).now + (schedule.delay n).getD 0 + latency n = _
    rw [ih, Finset.sum_range_succ, Finset.sum_range_succ]
    omega

/-- The waits of a schedule: each is the base doubled with every other step, exactly if there is a
duration that long; none is shorter than one before it, so that a schedule whose last wait does not
overflow has none that does. When the steps run out, the total has been waited, and besides only the
time of the fetches has passed. -/
theorem waits_exactly (schedule : Schedule) (hCalm : s.Calm) (hFetch : TakesTime fetch latency) :
    (∀ step, (factor step).toNat = 2 ^ min (step / 2) 31 ∧
      schedule.delay step =
        if schedule.base * 2 ^ min (step / 2) 31 ≤ Duration.longest then
          some (schedule.base * 2 ^ min (step / 2) 31)
        else none) ∧
    (∀ i j d, i ≤ j → schedule.delay j = some d → ∃ e, schedule.delay i = some e ∧ e ≤ d) ∧
    (schedule.delay (schedule.steps.toNat - 1) ≠ none →
      ∀ step < schedule.steps.toNat, schedule.delay step ≠ none) ∧
    ((∀ step < schedule.steps.toNat, schedule.delay step ≠ none) →
      (∀ step < schedule.steps.toNat, GoesOn (schedule.fetched fetch s step)) →
      ∃ s', (poll schedule fetch).run s = (.error .bulkOperationTimeout, s') ∧
        s'.now = s.now + total schedule.base schedule.steps.toNat +
          ∑ k ∈ Finset.range schedule.steps.toNat, latency k) := by
  refine ⟨fun step => ⟨toNat_factor step, schedule.delay_eq step⟩, ?_, ?_, ?_⟩
  · intro i j d hStep hDelay
    exact exists_delay_le hStep hDelay
  · intro hLast step hStep
    obtain ⟨last, hSome⟩ := Option.ne_none_iff_exists'.mp hLast
    obtain ⟨d, hDelay, -⟩ := exists_delay_le (Nat.le_sub_one_of_lt hStep) hSome
    simp [hDelay]
  · intro hDelays hOn
    have hAfter : ∀ n, (schedule.after fetch s n).Calm :=
      calm_after hCalm fun step s h => (hFetch step s h).1
    refine ⟨schedule.after fetch s schedule.steps.toNat, ?_, ?_⟩
    · rw [poll, run_pollFrom_of_goesOn hAfter hDelays (Nat.le_refl _) hOn, Nat.sub_self]
      rfl
    · rw [now_after hCalm hFetch, sum_delays hDelays]

def fetchRunning (_ : Nat) : Client BulkOperation := do
  modify fun s => { s with now := s.now + 7 }
  return { id := "op", status := "running" }

theorem waits_exactly_running :
    (({} : Session).Calm ∧ TakesTime fetchRunning fun _ => 7) ∧
      ∃ s', (poll { steps := 5, base := 10 } fetchRunning).run {} =
        (.error .bulkOperationTimeout, s') ∧ s'.now = 100 + 35 := by
  have hCalm : ({} : Session).Calm := ⟨rfl, rfl, rfl⟩
  have hFetch : TakesTime fetchRunning fun _ => 7 := fun _ _ h =>
    ⟨⟨h.cancelled, h.cancelAt, h.cancelAfter⟩, rfl⟩
  refine ⟨⟨hCalm, hFetch⟩, ?_⟩
  obtain ⟨-, -, -, hRun⟩ := waits_exactly { steps := 5, base := 10 } hCalm hFetch
  exact hRun (by decide) fun step _ => ⟨_, rfl, .inr rfl⟩

end Schedule

end EdgeApi
