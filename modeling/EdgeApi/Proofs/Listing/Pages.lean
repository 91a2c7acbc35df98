import Mathlib.Control.Monad.Basic
import EdgeApi.Proofs.Listing.PageServer
import EdgeApi.Proofs.Listing.Walk

/-!
# Listings by pages

What one fetched page does to a walk, and the whole walk against a page server: every item comes
once and in order, and every page is asked for once.
-/

set_option autoImplicit false

namespace EdgeApi

namespace Client

variable {α : Type}

def PageWalk.advance (auto : Bool) (w : PageWalk α) (envelope : Envelope (List α)) :
    Except Error (PageWalk α ⊕ (List α × ResultInfo)) :=
  match (envelope.info.getD {}).next? with
  | none => .error .pageOverflow
  | some next =>
    let items := w.items ++ envelope.result.getD []
    if next.done || !auto || decide (next.page ≤ w.page) then .ok (.inr (items, next))
    else .ok (.inl ⟨items, next.page, if 0 < next.perPage then next.perPage else w.perPage⟩)

def PageWalk.events (path : String) (w : PageWalk α) (envelope : Envelope (List α)) :
    List LogEvent :=
  (envelope.info.getD {}).next?.toList.map
    (pageEvent path w.page (w.items ++ envelope.result.getD []).length)

def pageWalk (c : Codec α) (path : String) (filters : Uri.Query) (auto : Bool) :
    Walk (PageWalk α) (List α) (List α × ResultInfo) where
  codec := .list c
  path w := (pageRequest path filters w.page w.perPage).path
  advance := PageWalk.advance auto
  events := PageWalk.events path

theorem isStep_pageStep (c : Codec α) (path : String) (filters : Uri.Query) (auto : Bool) :
    (pageWalk c path filters auto).IsStep (pageStep c path filters auto) := by
  intro w s
  simp only [pageStep, run_bind, pageWalk, pageRequest]
  rcases (request (.list c) .get _).run s with ⟨e | envelope, s'⟩
  · rfl
  · dsimp only [PageWalk.advance, PageWalk.events]
    rcases (envelope.info.getD {}).next? with _ | next
    · exact congrArg (Prod.mk _) s'.tell_nil.symm
    · simp only [run_bind, run_tell]
      split <;> rfl

end Client

namespace PageServer

open Client

variable {α : Type} (v : PageServer α)

/-- A reply that answers the requests of a listing for the pages there are, whatever page size they
ask for. -/
def Serves (c : Codec α) (path : String) (filters : Uri.Query)
    (reply : Request → Delivery) : Prop :=
  ∀ number asked : UInt32, 1 ≤ number.toNat → number.toNat ≤ v.lastPage (v.pageSize asked) →
    0 < asked → v.Answers c number asked (reply (pageRequest path filters number asked))

/-- The requests for all pages: the first one asks for a size, the others for the size served. -/
def requests (path : String) (filters : Uri.Query) (asked : UInt32) : List Request :=
  (List.range (v.lastPage (v.pageSize asked))).map fun i =>
    pageRequest path filters (UInt32.ofNat (i + 1))
      (if i = 0 then asked else UInt32.ofNat (v.pageSize asked))

variable {v} {c : Codec α} {path : String} {filters : Uri.Query}

theorem run_pageStep_of_serves {s : Session} {reply : Request → Delivery}
    {rest : List (Request → Delivery)} {number asked : UInt32} (auto : Bool) (items : List α)
    (hs : s.Calm) (hInbox : s.inbox = reply :: rest) (hReply : v.Serves c path filters reply)
    (hAsked : 0 < asked) (hFirst : 1 ≤ number.toNat)
    (hLast : number.toNat ≤ v.lastPage (v.pageSize asked)) :
    ∃ envelope info s', (pageStep c path filters auto ⟨items, number, asked⟩).run s =
        (PageWalk.advance auto ⟨items, number, asked⟩ envelope, s') ∧
      envelope.result.getD [] = v.page number.toNat (v.pageSize asked) ∧
      envelope.info = some info ∧ v.Describes number (v.pageSize asked) info ∧
      s'.Calm ∧ s'.inbox = rest ∧
      s'.sent = s.sent ++ [⟨pageRequest path filters number asked, s.now⟩] := by
  obtain ⟨response, envelope, info, hOutcome, hStatus, hBody, hItems, hInfo, hDescribes⟩ :=
    hReply number asked hFirst hLast hAsked
  obtain ⟨s', hRun, hCalm, hRest, hSent⟩ : ∃ s',
      (request (.list c) .get (pageRequest path filters number asked).path).run s =
        (.ok envelope, s') ∧ s'.Calm ∧ s'.inbox = rest ∧
      s'.sent = s.sent ++ [⟨pageRequest path filters number asked, s.now⟩] :=
    run_request_of_calm hs hInbox hOutcome hStatus hBody
  exact ⟨envelope, info, _, (isStep_pageStep c path filters auto).run_ok hRun, hItems, hInfo,
    hDescribes, hCalm.tell _, hRest, hSent⟩

theorem serves_rest {s s' : Session} {reply : Request → Delivery}
    {rest : List (Request → Delivery)} {left : Nat}
    (hReplies : ∀ reply ∈ s.inbox, v.Serves c path filters reply)
    (hLeft : left + 1 < s.inbox.length) (hCons : s.inbox = reply :: rest)
    (hRest : s'.inbox = rest) :
    (∀ reply ∈ s'.inbox, v.Serves c path filters reply) ∧ left < s'.inbox.length := by
  rw [hCons] at hReplies hLeft
  rw [hRest]
  exact ⟨(List.forall_mem_cons.mp hReplies).2, Nat.lt_of_succ_lt_succ hLeft⟩

section Advance

variable {number : UInt32} {size : Nat} {envelope : Envelope (List α)} {info : ResultInfo}

theorem advance_of_last (asked : UInt32) (hSize : 0 < size) (hFirst : 1 ≤ number.toNat)
    (hLast : number.toNat = v.lastPage size)
    (hPage : envelope.result.getD [] = v.page number.toNat size) (hInfo : envelope.info = some info)
    (hDescribes : v.Describes number size info) :
    ∃ next, next.done = true ∧
      PageWalk.advance true ⟨v.items.take ((number.toNat - 1) * size), number, asked⟩ envelope =
        .ok (.inr (v.items, next)) := by
  obtain ⟨next, hNext, hEnd, -⟩ := hDescribes.exists_next? hSize hFirst (Nat.le_of_eq hLast)
  have hDone := hEnd.mpr hLast
  have hItems : v.items.take ((number.toNat - 1) * size) ++ envelope.result.getD [] = v.items := by
    rw [hPage, take_append_page size hFirst, hLast, take_lastPage hSize]
  exact ⟨next, hDone, by simp [PageWalk.advance, hInfo, hNext, hDone, hItems]⟩

/-- A page before the last one leads to the page after it, which is asked for in the size served. -/
theorem advance_of_lt (asked : UInt32) (hSize : 0 < size) (hFirst : 1 ≤ number.toNat)
    (hMore : number.toNat < v.lastPage size)
    (hPage : envelope.result.getD [] = v.page number.toNat size) (hInfo : envelope.info = some info)
    (hDescribes : v.Describes number size info) :
    ∃ following : UInt32, following.toNat = number.toNat + 1 ∧
      PageWalk.advance true ⟨v.items.take ((number.toNat - 1) * size), number, asked⟩ envelope =
        .ok (.inl ⟨v.items.take (number.toNat * size), following, UInt32.ofNat size⟩) := by
  obtain ⟨next, hNext, hEnd, hOn⟩ := hDescribes.exists_next? hSize hFirst (Nat.le_of_lt hMore)
  have hDone : next.done = false := by
    rw [← Bool.not_eq_true, hEnd]
    exact Nat.ne_of_lt hMore
  obtain ⟨hNumber, hSame⟩ := hOn hDone
  have hPerPage : next.perPage = UInt32.ofNat size := by
    rw [hSame, ← hDescribes.perPage, UInt32.ofNat_toNat]
  have hPositive : 0 < UInt32.ofNat size := by
    rw [← hPerPage, hSame, UInt32.lt_iff_toNat_lt, hDescribes.perPage]
    exact hSize
  have hMoves : ¬next.page ≤ number := by
    rw [UInt32.le_iff_toNat_le, hNumber]
    exact Nat.not_succ_le_self _
  have hItems := take_append_page (v := v) size hFirst
  rw [← hPage] at hItems
  refine ⟨next.page, hNumber, ?_⟩
  simp [PageWalk.advance, hInfo, hNext, hDone, hMoves, hPerPage, hPositive, hItems]

end Advance

/-- From any page on, the walk collects the items left and asks for the pages left. -/
theorem run_walk (left : Nat) (number asked : UInt32) {s : Session} (hs : s.Calm)
    (hReplies : ∀ reply ∈ s.inbox, v.Serves c path filters reply)
    (hInbox : left < s.inbox.length) (hAsked : 0 < asked) (hFirst : 1 ≤ number.toNat)
    (hLeft : number.toNat + left = v.lastPage (v.pageSize asked)) :
    ∃ info s', (repeatUntil (pageStep c path filters true)
        ⟨v.items.take ((number.toNat - 1) * v.pageSize asked), number, asked⟩).run s =
          (.ok (v.items, info), s') ∧
      info.done = true ∧
      s'.sent.map Sent.request = s.sent.map Sent.request ++
        pageRequest path filters number asked ::
          (List.range' (number.toNat + 1) left).map fun i =>
            pageRequest path filters (UInt32.ofNat i) (UInt32.ofNat (v.pageSize asked)) := by
  have hSize : 0 < v.pageSize asked := pageSize_pos hAsked
  induction left generalizing s number asked with
  | zero =>
    obtain ⟨reply, rest, hCons⟩ := List.exists_cons_of_length_pos hInbox
    obtain ⟨envelope, info, s', hRun, hPage, hInfo, hDescribes, _, _, hSent⟩ :=
      run_pageStep_of_serves true _ hs hCons (hReplies reply (by simp [hCons])) hAsked hFirst
        (by omega)
    obtain ⟨next, hDone, hEnds⟩ :=
      advance_of_last asked hSize hFirst hLeft hPage hInfo hDescribes
    refine ⟨next, s', ?_, hDone, by simp [hSent]⟩
    rw [run_repeatUntil (isStep_pageStep c path filters true).consumes, hRun, hEnds]
  | succ left ih =>
    obtain ⟨reply, rest, hCons⟩ := List.exists_cons_of_length_pos (Nat.zero_lt_of_lt hInbox)
    obtain ⟨envelope, info, s', hRun, hPage, hInfo, hDescribes, hCalm, hRest, hSent⟩ :=
      run_pageStep_of_serves true _ hs hCons (hReplies reply (by simp [hCons])) hAsked hFirst
        (by omega)
    obtain ⟨following, hNumber, hGoes⟩ :=
      advance_of_lt asked hSize hFirst (by omega) hPage hInfo hDescribes
    -- asking for the size served is served in that size
    have hKept := pageSize_ofNat_pageSize (v := v) asked
    have hPositive : 0 < UInt32.ofNat (v.pageSize asked) := by
      rw [UInt32.lt_iff_toNat_lt, UInt32.toNat_ofNat_of_lt' (pageSize_lt asked)]
      exact hSize
    obtain ⟨hReplies', hInbox'⟩ := serves_rest hReplies hInbox hCons hRest
    obtain ⟨last, s'', hWalk, hEnd, hSent'⟩ := ih following (UInt32.ofNat (v.pageSize asked)) hCalm
      hReplies' hInbox' hPositive (by omega) (by rw [hKept]; omega) (by rw [hKept]; exact hSize)
    rw [hKept, hNumber, Nat.add_sub_cancel] at hWalk
    refine ⟨last, s'', ?_, hEnd, ?_⟩
    · rw [run_repeatUntil (isStep_pageStep c path filters true).consumes, hRun, hGoes]
      exact hWalk
    · have hFollowing : following = UInt32.ofNat (number.toNat + 1) := by
        rw [← hNumber, UInt32.ofNat_toNat]
      rw [hSent', hSent, List.range'_succ, hNumber, hKept, hFollowing]
      simp

/-- A listing whose caller picks no page collects every item of the server once and in order, asks
for every page once and in order, and its info is done. -/
theorem listPages_complete (v : PageServer α) (c : Codec α) (path : String) (filters : Uri.Query)
    {options : PageOptions} {defaultPerPage : UInt32} {s : Session}
    (hPage : options.page.getD 0 = 0) (hPerPage : options.perPage.getD 0 = 0)
    (hDefault : 0 < defaultPerPage) (hs : s.Calm)
    (hReplies : ∀ reply ∈ s.inbox, v.Serves c path filters reply)
    (hInbox : v.lastPage (v.pageSize defaultPerPage) ≤ s.inbox.length) :
    ∃ info s', (listPages c path filters options defaultPerPage).run s = (.ok (v.items, info), s') ∧
      info.done = true ∧
      s'.sent.map Sent.request =
        s.sent.map Sent.request ++ v.requests path filters defaultPerPage := by
  have hAuto : options.isAuto = true := by simp [PageOptions.isAuto, hPage, hPerPage]
  have hLast : 1 ≤ v.lastPage (v.pageSize defaultPerPage) := Nat.le_max_left _ _
  obtain ⟨info, s', hRun, hDone, hSent⟩ :=
    run_walk (v.lastPage (v.pageSize defaultPerPage) - 1) 1 defaultPerPage hs hReplies (by omega)
      hDefault (by decide) (by change 1 + _ = _; omega)
  refine ⟨info, s', ?_, hDone, ?_⟩
  · simpa [listPages, hPage, hPerPage, hAuto] using hRun
  · rw [hSent, requests]
    congr 1
    obtain ⟨more, hMore⟩ := Nat.exists_eq_add_of_le' hLast
    rw [hMore, List.range_succ_eq_map, List.map_cons, List.map_map, Nat.add_sub_cancel,
      List.range'_eq_map_range, List.map_map]
    congr 1
    apply List.map_congr_left
    intro i _
    change pageRequest path filters (UInt32.ofNat (1 + 1 + i)) _ =
      pageRequest path filters (UInt32.ofNat (i + 1 + 1)) (if i + 1 = 0 then _ else _)
    rw [if_neg (Nat.succ_ne_zero i), Nat.add_comm (1 + 1) i]

/-! Two letters, served one a page to whoever asks for any number of them. -/

def letters : PageServer String := ⟨["a", "b"], 1, by decide, by decide⟩

/-- States the item count. -/
def firstLetter : Response where
  status := 200
  body := Text.Utf8.encode <| "\x7b\"success\":true,\"result\":[\"a\"]," ++
    "\"result_info\":\x7b\"page\":1,\"per_page\":1,\"total_count\":2\x7d\x7d"

/-- States the page count. -/
def secondLetter : Response where
  status := 200
  body := Text.Utf8.encode <| "\x7b\"success\":true,\"result\":[\"b\"]," ++
    "\"result_info\":\x7b\"page\":2,\"per_page\":1,\"total_pages\":2\x7d\x7d"

def letterReply (request : Request) : Delivery where
  outcome := .ok <|
    if "/x?page=1&".toList.isPrefixOf request.path.toList then firstLetter else secondLetter

theorem toList_path_letters (number asked : UInt32) :
    (pageRequest "/x" [] number asked).path.toList =
      "/x?page=".toList ++ Uri.Query.encodeText (toString number.toNat) ++
        "&per_page=".toList ++ Uri.Query.encodeText (toString asked.toNat) := by
  have hPage : Uri.Query.encodeText "page" = "page".toList := by decide
  have hPerPage : Uri.Query.encodeText "per_page" = "per_page".toList := by decide
  simp [pageRequest, Uri.build, PageOptions.query, Uri.Query.number, Uri.Query.opt,
    Uri.Query.encode, List.intercalate, Uri.Query.encodePair, hPage, hPerPage]

theorem serves_letterReply : letters.Serves .text "/x" [] letterReply := by
  intro number asked hFirst hLast hAsked
  have hSize : letters.pageSize asked = 1 := by
    have hNat := UInt32.lt_iff_toNat_lt.mp hAsked
    change min asked.toNat 1 = 1
    exact Nat.min_eq_right hNat
  rw [hSize] at hLast
  have hTwo : number.toNat ≤ 2 := hLast
  have hCases : number = 1 ∨ number = 2 := by
    rw [← UInt32.toNat_inj, ← UInt32.toNat_inj]
    change number.toNat = 1 ∨ number.toNat = 2
    omega
  rcases hCases with rfl | rfl
  · have hReply : letterReply (pageRequest "/x" [] 1 asked) = { outcome := .ok firstLetter } := by
      rw [letterReply, toList_path_letters]
      rfl
    refine ⟨firstLetter,
      ⟨true, [], [], some ["a"], some { page := 1, perPage := 1, totalCount := 2 }⟩,
      { page := 1, perPage := 1, totalCount := 2 }, by rw [hReply], by decide, by decide +kernel,
      by rw [hSize]; rfl, rfl, rfl, hSize.symm, by rw [hSize]; decide⟩
  · have hReply : letterReply (pageRequest "/x" [] 2 asked) = { outcome := .ok secondLetter } := by
      rw [letterReply, toList_path_letters]
      rfl
    refine ⟨secondLetter,
      ⟨true, [], [], some ["b"], some { page := 2, perPage := 1, statedPages := 2 }⟩,
      { page := 2, perPage := 1, statedPages := 2 }, by rw [hReply], by decide, by decide +kernel,
      by rw [hSize]; rfl, rfl, rfl, hSize.symm, by rw [hSize]; decide⟩

theorem listPages_complete_letters :
    (PageOptions.page { page := some 0 }).getD 0 = 0 ∧ letters.Serves .text "/x" [] letterReply ∧
      ∃ info s', (listPages .text "/x" [] { page := some 0 } 3).run
          { inbox := [letterReply, letterReply] } = (.ok (["a", "b"], info), s') ∧
        info.done = true ∧
        s'.sent.map Sent.request = [pageRequest "/x" [] 1 3, pageRequest "/x" [] 2 1] :=
  ⟨rfl, serves_letterReply,
    listPages_complete letters .text "/x" [] rfl rfl (by decide) ⟨rfl, rfl, rfl⟩
      (by simp [serves_letterReply]) (by decide)⟩

end PageServer

end EdgeApi
