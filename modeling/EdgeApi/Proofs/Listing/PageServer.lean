import EdgeApi.Client.Listing
import EdgeApi.Proofs.Listing.Advance

/-!
# Page servers

A server that keeps a sequence of items and serves it by pages, none larger than a limit of its own.
Its info states the page count, the item count, or both. Advancing such an info reaches every page
once and is done past the last one.
-/

set_option autoImplicit false

namespace EdgeApi

structure PageServer (α : Type) where
  items : List α
  limit : Nat
  limit_pos : 0 < limit
  length_lt : items.length < UInt32.size - 1

namespace PageServer

variable {α : Type} (v : PageServer α)

def pageSize (asked : UInt32) : Nat :=
  min asked.toNat v.limit

def pageCount (size : Nat) : Nat :=
  (v.items.length + size - 1) / size

/-- How many pages there are to ask for: the first one exists even if it is empty. -/
def lastPage (size : Nat) : Nat :=
  max 1 (v.pageCount size)

/-- The items from `(page - 1) * size` on, as many as a page holds. -/
def page (number size : Nat) : List α :=
  (v.items.drop ((number - 1) * size)).take size

structure Describes (number : UInt32) (size : Nat) (info : ResultInfo) : Prop where
  page : info.page = number
  perPage : info.perPage.toNat = size
  counts :
    info.statedPages.toNat = v.pageCount size ∧ info.totalCount = 0 ∨
      info.statedPages = 0 ∧ info.totalCount.toNat = v.items.length ∨
      info.statedPages.toNat = v.pageCount size ∧ info.totalCount.toNat = v.items.length

def Answers (c : Codec α) (number asked : UInt32) (delivery : Delivery) : Prop :=
  ∃ response envelope info, delivery.outcome = .ok response ∧ response.status < 400 ∧
    response.envelope (.list c) = .ok envelope ∧
    envelope.result.getD [] = v.page number.toNat (v.pageSize asked) ∧
    envelope.info = some info ∧ v.Describes number (v.pageSize asked) info

variable {v}

theorem pageSize_pos {asked : UInt32} (hAsked : 0 < asked) : 0 < v.pageSize asked := by
  have hNat : 0 < asked.toNat := UInt32.lt_iff_toNat_lt.mp hAsked
  have hLimit := v.limit_pos
  unfold pageSize
  omega

theorem pageSize_lt (asked : UInt32) : v.pageSize asked < UInt32.size := by
  have hNat : asked.toNat < UInt32.size := asked.toNat_lt
  unfold pageSize
  omega

/-- Asking for the size that was served is served in full. -/
theorem pageSize_ofNat_pageSize (asked : UInt32) :
    v.pageSize (UInt32.ofNat (v.pageSize asked)) = v.pageSize asked := by
  have hNat := v.pageSize_lt asked
  rw [pageSize, UInt32.toNat_ofNat_of_lt' hNat]
  exact Nat.min_eq_left (Nat.min_le_right _ _)

theorem lt_pageCount_iff {size : Nat} (hSize : 0 < size) (k : Nat) :
    k < v.pageCount size ↔ k * size < v.items.length := by
  rw [pageCount, Nat.lt_iff_add_one_le, Nat.le_div_iff_mul_le hSize, Nat.add_mul]
  omega

theorem pageCount_le_length {size : Nat} (hSize : 0 < size) :
    v.pageCount size ≤ v.items.length := by
  apply Nat.le_of_not_lt
  intro hMore
  have hLess := (lt_pageCount_iff hSize v.items.length).mp hMore
  have hMul := Nat.le_mul_of_pos_right v.items.length hSize
  omega

theorem pageCount_lt {size : Nat} (hSize : 0 < size) : v.pageCount size < UInt32.size - 1 :=
  Nat.lt_of_le_of_lt (pageCount_le_length hSize) v.length_lt

theorem take_append_page {number : Nat} (size : Nat) (hNumber : 1 ≤ number) :
    v.items.take ((number - 1) * size) ++ v.page number size = v.items.take (number * size) := by
  obtain ⟨k, rfl⟩ := Nat.exists_eq_add_of_le hNumber
  rw [page, ← List.take_add]
  congr 1
  rw [Nat.add_sub_cancel_left, Nat.add_mul]
  omega

theorem take_lastPage {size : Nat} (hSize : 0 < size) :
    v.items.take (v.lastPage size * size) = v.items := by
  apply List.take_of_length_le
  have hEnd := mt (lt_pageCount_iff hSize (v.pageCount size)).mpr (Nat.lt_irrefl _)
  have hMul : v.pageCount size * size ≤ v.lastPage size * size :=
    Nat.mul_le_mul_right size (Nat.le_max_right _ _)
  omega

namespace Describes

variable {number : UInt32} {size : Nat} {info : ResultInfo}

theorem toNat_totalPages (h : v.Describes number size info) (hSize : 0 < size) :
    info.totalPages.toNat = v.pageCount size := by
  have hPerPage : 0 < info.perPage := by
    rw [UInt32.lt_iff_toNat_lt, h.perPage]
    exact hSize
  have hDerived : info.totalCount.toNat = v.items.length →
      (UInt32.ofNat ((info.totalCount.toNat + info.perPage.toNat - 1) /
        info.perPage.toNat)).toNat = v.pageCount size := by
    intro hTotal
    rw [hTotal, h.perPage]
    exact UInt32.toNat_ofNat_of_lt' (Nat.lt_trans (pageCount_lt hSize) (by decide))
  unfold ResultInfo.totalPages
  rcases h.counts with ⟨hPages, hTotal⟩ | ⟨hPages, hTotal⟩ | ⟨hPages, hTotal⟩
  · rw [if_neg (by simp [hTotal])]
    exact hPages
  · split
    · exact hDerived hTotal
    · rename_i hNone
      have hEmpty : v.items.length = 0 := by
        apply Nat.eq_zero_of_not_pos
        intro hSome
        refine hNone ⟨hPages, ?_, hPerPage⟩
        rw [UInt32.lt_iff_toNat_lt, hTotal]
        exact hSome
      have hCount := pageCount_le_length (v := v) hSize
      rw [hPages]
      change 0 = _
      omega
  · split
    · exact hDerived hTotal
    · exact hPages

/-- The info of a page advances, to the page after it unless that page was the last one. -/
theorem exists_next? (h : v.Describes number size info) (hSize : 0 < size)
    (hFirst : 1 ≤ number.toNat) (hLast : number.toNat ≤ v.lastPage size) :
    ∃ next, info.next? = some next ∧ (next.done = true ↔ number.toNat = v.lastPage size) ∧
      (next.done = false → next.page.toNat = number.toNat + 1 ∧ next.perPage = info.perPage) := by
  have hCount : v.pageCount size < ResultInfo.lastNumber.toNat := pageCount_lt hSize
  have hLeft : info.stepsLeft = v.pageCount size + 1 - number.toNat := by
    rw [ResultInfo.stepsLeft, h.toNat_totalPages hSize, h.page]
  unfold lastPage at hLast ⊢
  cases hDone : info.done with
  | true =>
    have hNone := ResultInfo.done_iff.mp hDone
    refine ⟨info, ResultInfo.next?_of_done hDone, ?_, fun hMore => ?_⟩
    · simp only [hDone, true_iff]
      omega
    · cases hDone.symm.trans hMore
  | false =>
    have hSome : info.stepsLeft ≠ 0 := by
      intro hNone
      cases hDone.symm.trans (ResultInfo.done_iff.mpr hNone)
    obtain ⟨next, hNext, hAhead⟩ :=
      (ResultInfo.IsAhead.refl info).exists_next? hDone (by rw [h.page]; omega)
    have hPage := hAhead.page
    rw [h.page] at hPage
    have hPerPage : next.perPage = info.perPage :=
      show { next with page := info.page : ResultInfo }.perPage = _ by rw [hAhead.frame]
    refine ⟨next, hNext, ?_, fun _ => ⟨hPage, hPerPage⟩⟩
    rw [ResultInfo.done_iff, hAhead.stepsLeft]
    omega

end Describes

end PageServer

end EdgeApi
