import EdgeApi.Proofs.Listing.Pages

/-!
# Listings page by page

A caller who picks every page, each time the one that the info given names, collects what a listing
collects that picks none.
-/

set_option autoImplicit false

namespace EdgeApi

open Client

variable {α : Type}

structure PickedPage (α : Type) where
  items : List α
  sent : List Sent

/-- The calls of a caller who goes on with the page of the info given until that info is done. -/
inductive ByHand (call : UInt32 → Client (List α × ResultInfo)) :
    UInt32 → Session → List (PickedPage α) → Session → Prop
  | last {number : UInt32} {s s' : Session} {items : List α} {info : ResultInfo}
      {sent : List Sent} :
      (call number).run s = (.ok (items, info), s') → s'.sent = s.sent ++ sent →
      info.done = true → ByHand call number s [⟨items, sent⟩] s'
  | more {number : UInt32} {s s₁ s' : Session} {items : List α} {info : ResultInfo}
      {sent : List Sent} {calls : List (PickedPage α)} :
      (call number).run s = (.ok (items, info), s₁) → s₁.sent = s.sent ++ sent →
      info.done = false → ByHand call info.page s₁ calls s' →
      ByHand call number s (⟨items, sent⟩ :: calls) s'

/-- What the caller gets is determined by the session that the first call meets. -/
theorem ByHand.unique {call : UInt32 → Client (List α × ResultInfo)} {number : UInt32}
    {s s' s'' : Session} {calls calls' : List (PickedPage α)} (h : ByHand call number s calls s')
    (h' : ByHand call number s calls' s'') : calls' = calls ∧ s'' = s' := by
  induction h generalizing calls' with
  | last hRun hSent hDone =>
    cases h' with
    | last hRun' hSent' _ =>
      cases hRun.symm.trans hRun'
      exact ⟨by rw [List.append_cancel_left (hSent'.symm.trans hSent)], rfl⟩
    | more hRun' _ hMore _ =>
      cases hRun.symm.trans hRun'
      exact absurd (hDone.symm.trans hMore) nofun
  | more hRun hSent hMore _ ih =>
    cases h' with
    | last hRun' _ hDone =>
      cases hRun.symm.trans hRun'
      exact absurd (hDone.symm.trans hMore) nofun
    | more hRun' hSent' _ hRest =>
      cases hRun.symm.trans hRun'
      obtain ⟨rfl, rfl⟩ := ih hRest
      exact ⟨by rw [List.append_cancel_left (hSent'.symm.trans hSent)], rfl⟩

namespace PageServer

variable {v : PageServer α} {c : Codec α} {path : String} {filters : Uri.Query}

theorem run_listPages_of_pick {s : Session} {reply : Request → Delivery}
    {rest : List (Request → Delivery)} {number asked : UInt32} (defaultPerPage : UInt32)
    (hs : s.Calm) (hInbox : s.inbox = reply :: rest) (hReply : v.Serves c path filters reply)
    (hAsked : 0 < asked) (hFirst : 1 ≤ number.toNat)
    (hLast : number.toNat ≤ v.lastPage (v.pageSize asked)) :
    ∃ next s', (listPages c path filters { page := some number, perPage := some asked }
        defaultPerPage).run s = (.ok (v.page number.toNat (v.pageSize asked), next), s') ∧
      (next.done = true ↔ number.toNat = v.lastPage (v.pageSize asked)) ∧
      (next.done = false → next.page.toNat = number.toNat + 1) ∧ s'.Calm ∧ s'.inbox = rest ∧
      s'.sent = s.sent ++ [⟨pageRequest path filters number asked, s.now⟩] := by
  have hNumber : number ≠ 0 := by
    rintro rfl
    exact absurd hFirst (by decide)
  have hSize : asked ≠ 0 := UInt32.pos_iff_ne_zero.mp hAsked
  have hPicked : PageOptions.isAuto { page := some number, perPage := some asked } = false := by
    simp [PageOptions.isAuto, hNumber]
  obtain ⟨envelope, info, s', hRun, hItems, hInfo, hDescribes, hCalm, hRest, hSent⟩ :=
    run_pageStep_of_serves false [] hs hInbox hReply hAsked hFirst hLast
  obtain ⟨next, hNext, hEnd, hOn⟩ := hDescribes.exists_next? (pageSize_pos hAsked) hFirst hLast
  refine ⟨next, s', ?_, hEnd, fun hDone => (hOn hDone).1, hCalm, hRest, hSent⟩
  simp only [listPages, hPicked, Option.getD_some, if_neg hNumber, if_neg hSize]
  rw [run_repeatUntil (isStep_pageStep c path filters false).consumes, hRun]
  simp [PageWalk.advance, hItems, hInfo, hNext]

theorem exists_byHand (left : Nat) (number asked defaultPerPage : UInt32) {s : Session}
    (hs : s.Calm) (hReplies : ∀ reply ∈ s.inbox, v.Serves c path filters reply)
    (hInbox : left < s.inbox.length) (hAsked : 0 < asked) (hFirst : 1 ≤ number.toNat)
    (hLeft : number.toNat + left = v.lastPage (v.pageSize asked)) :
    ∃ calls s', ByHand (fun number => listPages c path filters
        { page := some number, perPage := some asked } defaultPerPage) number s calls s' ∧
      v.items.take ((number.toNat - 1) * v.pageSize asked) ++ calls.flatMap PickedPage.items =
        v.items ∧
      calls.map (fun call => call.sent.map Sent.request) =
        (List.range' number.toNat (left + 1)).map fun i =>
          [pageRequest path filters (UInt32.ofNat i) asked] := by
  have hSize : 0 < v.pageSize asked := pageSize_pos hAsked
  -- on the pages left: the items before a page and those of the calls from it on are all items
  induction left generalizing s number with
  | zero =>
    obtain ⟨reply, rest, hCons⟩ := List.exists_cons_of_length_pos hInbox
    obtain ⟨next, s₁, hRun, hEnd, -, -, -, hSent⟩ :=
      run_listPages_of_pick defaultPerPage hs hCons (hReplies reply (by simp [hCons])) hAsked
        hFirst (by omega)
    refine ⟨_, s₁, .last hRun hSent (hEnd.mpr hLeft), ?_, by simp⟩
    rw [List.flatMap_singleton, take_append_page _ hFirst, ← Nat.add_zero number.toNat, hLeft,
      take_lastPage hSize]
  | succ left ih =>
    obtain ⟨reply, rest, hCons⟩ := List.exists_cons_of_length_pos (Nat.zero_lt_of_lt hInbox)
    obtain ⟨next, s₁, hRun, hEnd, hOn, hCalm, hRest, hSent⟩ :=
      run_listPages_of_pick defaultPerPage hs hCons (hReplies reply (by simp [hCons])) hAsked
        hFirst (by omega)
    have hMore : next.done = false := by
      rw [← Bool.not_eq_true, hEnd]
      omega
    have hPage := hOn hMore
    obtain ⟨hReplies₁, hInbox₁⟩ := serves_rest hReplies hInbox hCons hRest
    obtain ⟨calls, s', hCalls, hItems, hAsked₁⟩ :=
      ih next.page hCalm hReplies₁ hInbox₁ (by omega) (by omega)
    refine ⟨_, s', .more hRun hSent hMore hCalls, ?_, ?_⟩
    · rw [hPage, Nat.add_sub_cancel] at hItems
      rw [List.flatMap_cons, ← List.append_assoc, take_append_page _ hFirst, hItems]
    · have hNumbers : List.range' number.toNat (left + 1 + 1) =
          number.toNat :: List.range' (number.toNat + 1) (left + 1) := List.range'_succ
      rw [List.map_cons, hAsked₁, hPage, hNumbers]
      simp

/-- A caller who starts with page 1 and any page size and then goes by the infos comes to an end,
makes one request a call, and gets call by call what a listing that picks no page gets at once.
Nothing else can come out of the calls. -/
theorem byHand_eq_listPages (v : PageServer α) (c : Codec α) (path : String)
    (filters : Uri.Query) (options : PageOptions) (asked defaultPerPage : UInt32)
    {s t : Session} (hPage : options.page.getD 0 = 0) (hPerPage : options.perPage.getD 0 = 0)
    (hAsked : 0 < asked) (hDefault : 0 < defaultPerPage) (hs : s.Calm) (ht : t.Calm)
    (hReplies : ∀ reply ∈ s.inbox, v.Serves c path filters reply)
    (hReplies' : ∀ reply ∈ t.inbox, v.Serves c path filters reply)
    (hInbox : v.lastPage (v.pageSize asked) ≤ s.inbox.length)
    (hInbox' : v.lastPage (v.pageSize defaultPerPage) ≤ t.inbox.length) :
    ∃ calls s', ByHand (fun number => listPages c path filters
        { page := some number, perPage := some asked } defaultPerPage) 1 s calls s' ∧
      (∀ calls' s'', ByHand (fun number => listPages c path filters
        { page := some number, perPage := some asked } defaultPerPage) 1 s calls' s'' →
          calls' = calls) ∧
      calls.map (fun call => call.sent.map Sent.request) =
        (List.range' 1 (v.lastPage (v.pageSize asked))).map (fun i =>
          [pageRequest path filters (UInt32.ofNat i) asked]) ∧
      ∃ info t', (listPages c path filters options defaultPerPage).run t =
        (.ok (calls.flatMap PickedPage.items, info), t') := by
  have hLast : ∀ size, 1 ≤ v.lastPage size := fun _ => Nat.le_max_left _ _
  have hAuto : options.isAuto = true := by simp [PageOptions.isAuto, hPage, hPerPage]
  obtain ⟨left, hLeft⟩ := Nat.exists_eq_add_of_le' (hLast (v.pageSize asked))
  obtain ⟨more, hMore⟩ := Nat.exists_eq_add_of_le' (hLast (v.pageSize defaultPerPage))
  obtain ⟨calls, s', hCalls, hItems, hSent⟩ :=
    exists_byHand left 1 asked defaultPerPage hs hReplies (by omega) hAsked (by decide)
      (by rw [hLeft]; exact Nat.add_comm 1 left)
  obtain ⟨info, t', hRun, -, -⟩ :=
    run_walk more 1 defaultPerPage ht hReplies' (by omega) hDefault (by decide)
      (by rw [hMore]; exact Nat.add_comm 1 more)
  have hAll : calls.flatMap PickedPage.items = v.items := by simpa using hItems
  refine ⟨calls, s', hCalls, ?_, ?_, info, t', ?_⟩
  · intro calls' s'' hCalls'
    exact (hCalls.unique hCalls').1
  · rw [hSent, hLeft]
    rfl
  · rw [hAll]
    simpa [listPages, hPage, hPerPage, hAuto] using hRun

theorem byHand_eq_listPages_letters :
    letters.Serves .text "/x" [] letterReply ∧
      ∃ calls s', ByHand (fun number => listPages .text "/x" []
          { page := some number, perPage := some 5 } 3) 1 { inbox := [letterReply, letterReply] }
            calls s' ∧
        calls.map (fun call => call.sent.map Sent.request) =
          [[pageRequest "/x" [] 1 5], [pageRequest "/x" [] 2 5]] ∧
        ∃ info t', (listPages .text "/x" [] {} 3).run { inbox := [letterReply, letterReply] } =
          (.ok (calls.flatMap PickedPage.items, info), t') := by
  have hReplies : ∀ reply ∈ [letterReply, letterReply], letters.Serves .text "/x" [] reply := by
    simp [serves_letterReply]
  obtain ⟨calls, s', hCalls, -, hSent, hRun⟩ :=
    byHand_eq_listPages letters .text "/x" [] {} 5 3 rfl rfl (by decide) (by decide)
      (s := { inbox := [letterReply, letterReply] }) (t := { inbox := [letterReply, letterReply] })
      ⟨rfl, rfl, rfl⟩ ⟨rfl, rfl, rfl⟩ hReplies hReplies (by decide) (by decide)
  exact ⟨serves_letterReply, calls, s', hCalls, hSent, hRun⟩

end PageServer

end EdgeApi
