import EdgeApi.ResultInfo

/-!
# Advancing

Each step to the following page leaves one page less, until the info is done and stays as it is. The
numbers of pages end with those of a word: a listing with as many pages as that is never done, since
there is no number for the page after its last one.
-/

set_option autoImplicit false

namespace EdgeApi.ResultInfo

def advance (r : ResultInfo) : Nat → Option ResultInfo
  | 0 => some r
  | k + 1 => (r.advance k).bind next?

def stepsLeft (r : ResultInfo) : Nat :=
  r.totalPages.toNat + 1 - r.page.toNat

/-- The info differs from an earlier one in no more than its page, which so many steps took
further. -/
structure IsAhead (r r' : ResultInfo) (steps : Nat) : Prop where
  frame : { r' with page := r.page } = r
  page : r'.page.toNat = r.page.toNat + steps

/-- Every number of steps can be made. They count the page up until the info is done, which it is
after exactly the steps that are left, and does not change from then on. -/
structure AdvancesExactly (r : ResultInfo) : Prop where
  ahead : ∀ k, ∃ r', r.advance k = some r' ∧ r.IsAhead r' (min k r.stepsLeft) ∧
    (r'.done = true ↔ r.stepsLeft ≤ k)
  fixed : ∀ k r', r.advance k = some r' → r.stepsLeft ≤ k → r'.next? = some r'

/-- The steps count the page up to the largest number. The info is not done then, and no other step
can be made. -/
structure Overflows (r : ResultInfo) : Prop where
  ahead : ∀ k, r.page.toNat + k ≤ lastNumber.toNat →
    ∃ r', r.advance k = some r' ∧ r.IsAhead r' k ∧ r'.done = false
  ends : ∀ k, lastNumber.toNat < r.page.toNat + k → r.advance k = none

variable {r r' : ResultInfo} {k steps : Nat}

theorem done_iff : r.done = true ↔ r.stepsLeft = 0 := by
  have hFirst : r.page = 1 ↔ r.page.toNat = 1 := UInt32.toNat_inj.symm
  have hNone : r.totalPages = 0 ↔ r.totalPages.toNat = 0 := UInt32.toNat_inj.symm
  simp only [done, stepsLeft, decide_eq_true_eq, UInt32.lt_iff_toNat_lt, hFirst, hNone]
  omega

theorem next?_of_done (h : r.done = true) : r.next? = some r :=
  if_pos h

theorem next?_of_not_done (h : r.done = false) :
    r.next? = if r.page = lastNumber then none else some { r with page := r.page + 1 } :=
  if_neg (by simp [h])

/-- There is no number for the page after the last one if that has the largest number. -/
theorem next?_eq_none_iff : r.next? = none ↔ r.page = lastNumber ∧ r.totalPages = lastNumber := by
  have hPages := r.totalPages.toNat_lt
  have hDone : r.done = true ↔ r.totalPages.toNat + 1 - r.page.toNat = 0 := done_iff
  have hTotal : r.totalPages = lastNumber ↔ r.totalPages.toNat = 0xFFFFFFFF :=
    UInt32.toNat_inj.symm
  by_cases hPage : r.page = lastNumber
  · have hNumber : r.page.toNat = 0xFFFFFFFF := congrArg UInt32.toNat hPage
    cases h : r.done with
    | true =>
      have hLeft := hDone.mp h
      rw [next?_of_done h, hTotal]
      simp only [reduceCtorEq, false_iff]
      omega
    | false =>
      have hLeft : r.totalPages.toNat + 1 - r.page.toNat ≠ 0 := by
        intro hZero
        cases h.symm.trans (hDone.mpr hZero)
      rw [next?_of_not_done h, if_pos hPage, hTotal]
      simp only [hPage, true_and, true_iff]
      omega
  · cases h : r.done with
    | true => simp [next?_of_done h, hPage]
    | false => simp [next?_of_not_done h, hPage]

namespace IsAhead

theorem refl (r : ResultInfo) : r.IsAhead r 0 :=
  ⟨rfl, rfl⟩

theorem totalPages (h : r.IsAhead r' steps) : r'.totalPages = r.totalPages :=
  show { r' with page := r.page : ResultInfo }.totalPages = _ from congrArg _ h.frame

theorem stepsLeft (h : r.IsAhead r' steps) : r'.stepsLeft = r.stepsLeft - steps := by
  rw [ResultInfo.stepsLeft, h.totalPages, h.page, ResultInfo.stepsLeft]
  omega

theorem exists_next? (h : r.IsAhead r' steps) (hDone : r'.done = false)
    (hNumber : r.page.toNat + steps < lastNumber.toNat) :
    ∃ next, r'.next? = some next ∧ r.IsAhead next (steps + 1) := by
  have hPage : r'.page ≠ lastNumber := by
    intro hSame
    have hLarge := h.page
    rw [hSame] at hLarge
    omega
  refine ⟨{ r' with page := r'.page + 1 }, ?_, h.frame, ?_⟩
  · rw [next?_of_not_done hDone, if_neg hPage]
  · have hBound : r.page.toNat + steps + 1 < 2 ^ 32 := Nat.succ_lt_succ hNumber
    change (r'.page + 1).toNat = _
    rw [UInt32.toNat_add, h.page]
    exact Nat.mod_eq_of_lt hBound

end IsAhead

/-- As long as there are numbers for the pages, every step counts the page up, or finds the info
done. -/
theorem exists_advance (k : Nat) (h : r.page.toNat + min k r.stepsLeft ≤ lastNumber.toNat) :
    ∃ r', r.advance k = some r' ∧ r.IsAhead r' (min k r.stepsLeft) ∧
      (r'.done = true ↔ r.stepsLeft ≤ k) := by
  have hDone : ∀ {r' k}, r.IsAhead r' (min k r.stepsLeft) →
      (r'.done = true ↔ r.stepsLeft ≤ k) := by
    intro r' k hAhead
    rw [done_iff, hAhead.stepsLeft]
    omega
  suffices hAhead : ∃ r', r.advance k = some r' ∧ r.IsAhead r' (min k r.stepsLeft) by
    obtain ⟨r', hAdvance, hAhead⟩ := hAhead
    exact ⟨r', hAdvance, hAhead, hDone hAhead⟩
  induction k with
  | zero =>
    rw [Nat.zero_min]
    exact ⟨r, rfl, .refl r⟩
  | succ k ih =>
    obtain ⟨r', hAdvance, hAhead⟩ := ih (by omega)
    rw [advance, hAdvance]
    by_cases hLeft : r.stepsLeft ≤ k
    · have hSame : min (k + 1) r.stepsLeft = min k r.stepsLeft := by omega
      rw [hSame]
      exact ⟨r', next?_of_done ((hDone hAhead).mpr hLeft), hAhead⟩
    · have hMore : min (k + 1) r.stepsLeft = min k r.stepsLeft + 1 := by omega
      rw [hMore] at h ⊢
      refine hAhead.exists_next? ?_ (Nat.lt_of_succ_le h)
      rw [← Bool.not_eq_true, hDone hAhead]
      exact hLeft

theorem advance_eq_none_of_le {j : Nat} (h : r.advance j = none) (hSteps : j ≤ k) :
    r.advance k = none := by
  induction hSteps with
  | refl => exact h
  | step _ ih => rw [advance, ih, Option.bind_none]

theorem advancesExactly_of_ne (hLast : r.totalPages ≠ lastNumber) : r.AdvancesExactly := by
  have hPages : r.totalPages.toNat ≠ lastNumber.toNat := fun h => hLast (UInt32.toNat_inj.mp h)
  have hBound := r.totalPages.toNat_lt
  have hPage := r.page.toNat_lt
  have hNumbers : ∀ k, r.page.toNat + min k r.stepsLeft ≤ lastNumber.toNat := by
    intro k
    simp only [stepsLeft, lastNumber] at *
    simp at *
    omega
  refine ⟨fun k => exists_advance k (hNumbers k), ?_⟩
  intro k r' hAdvance hLeft
  obtain ⟨last, hSame, -, hDone⟩ := exists_advance k (hNumbers k)
  cases hAdvance.symm.trans hSame
  exact next?_of_done (hDone.mpr hLeft)

theorem overflows_of_eq (hLast : r.totalPages = lastNumber) : r.Overflows := by
  have hPage : r.page.toNat ≤ lastNumber.toNat := Nat.le_of_lt_succ r.page.toNat_lt
  have hLeft : r.stepsLeft = lastNumber.toNat + 1 - r.page.toNat := by rw [stepsLeft, hLast]
  have hAhead : ∀ k, r.page.toNat + k ≤ lastNumber.toNat →
      ∃ r', r.advance k = some r' ∧ r.IsAhead r' k ∧ r'.done = false := by
    intro k hk
    have hSteps : min k r.stepsLeft = k := by omega
    obtain ⟨r', hAdvance, hAhead, hDone⟩ := exists_advance (r := r) k (by rw [hSteps]; exact hk)
    rw [hSteps] at hAhead
    refine ⟨r', hAdvance, hAhead, ?_⟩
    rw [← Bool.not_eq_true, hDone]
    omega
  refine ⟨hAhead, ?_⟩
  intro k hk
  obtain ⟨r', hAdvance, hLastPage, -⟩ := hAhead (lastNumber.toNat - r.page.toNat) (by omega)
  refine advance_eq_none_of_le (j := lastNumber.toNat - r.page.toNat + 1) ?_ (by omega)
  rw [advance, hAdvance, Option.bind_some, next?_eq_none_iff, ← UInt32.toNat_inj]
  exact ⟨by rw [hLastPage.page]; omega, hLastPage.totalPages.trans hLast⟩

/-- Advancing is exact for every info but those of as many pages as there are numbers, and with
these it overflows. -/
theorem advancesExactly_iff (r : ResultInfo) :
    (r.AdvancesExactly ↔ r.totalPages ≠ lastNumber) ∧
      (r.Overflows ↔ r.totalPages = lastNumber) := by
  have hApart : r.AdvancesExactly → ¬r.Overflows := by
    intro hExact hOverflows
    obtain ⟨r', hAdvance, -⟩ := hExact.ahead (lastNumber.toNat + 1)
    cases hAdvance.symm.trans (hOverflows.ends _ (Nat.le_add_left _ _))
  constructor
  · exact ⟨fun hExact hLast => hApart hExact (overflows_of_eq hLast), advancesExactly_of_ne⟩
  · exact ⟨fun hOverflows => Decidable.byContradiction fun hLast =>
      hApart (advancesExactly_of_ne hLast) hOverflows, overflows_of_eq⟩

def lastOfLongest : ResultInfo :=
  { page := 0xFFFFFFFF, statedPages := 0xFFFFFFFF }

theorem not_advancesExactly_lastOfLongest :
    ¬lastOfLongest.AdvancesExactly ∧ lastOfLongest.stepsLeft = 1 ∧
      lastOfLongest.done = false ∧ lastOfLongest.next? = none := by
  refine ⟨?_, by decide, by decide, by decide⟩
  intro hExact
  obtain ⟨r', hAdvance, -⟩ := hExact.ahead 1
  have hNone : lastOfLongest.advance 1 = none := by decide
  cases hAdvance.symm.trans hNone

end EdgeApi.ResultInfo
