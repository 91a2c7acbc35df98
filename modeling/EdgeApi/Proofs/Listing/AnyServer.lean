import Mathlib.Data.List.Chain
import Mathlib.Order.Defs.Unbundled
import EdgeApi.Operation
import EdgeApi.Proofs.Listing.Pages

/-!
# Listings by pages from any server

A server may state any numbers, or none. The pages asked for increase all the same, so a listing
ends. What is asked for after an answer depends on that answer and the page asked for. A server that
says of the page with the largest number that it is the last one makes a listing overflow.
-/

set_option autoImplicit false

namespace EdgeApi

open Client

variable {α : Type}

structure PageAsk where
  page : UInt32
  perPage : UInt32
  deriving DecidableEq

namespace PageAsk

def request (path : String) (filters : Uri.Query) (a : PageAsk) : Request :=
  pageRequest path filters a.page a.perPage

/-- What an envelope leads to: a page further on, unless there are no more. A picked page leads
nowhere. -/
def following (auto : Bool) (a : PageAsk) (envelope : Envelope (List α)) : Option PageAsk := do
  let next ← (envelope.info.getD {}).next?
  if auto = true ∧ next.done = false ∧ a.page < next.page then
    return ⟨next.page, if next.perPage = 0 then a.perPage else next.perPage⟩
  else none

theorem page_lt_of_following {auto : Bool} {a b : PageAsk} {envelope : Envelope (List α)}
    (h : a.following auto envelope = some b) : a.page < b.page := by
  unfold following at h
  obtain ⟨next, -, hNext⟩ := Option.bind_eq_some_iff.mp h
  split at hNext
  · rename_i hMore
    cases hNext
    exact hMore.2.2
  · cases hNext

end PageAsk

namespace PageOptions

def first (o : PageOptions) (defaultPerPage : UInt32) : PageAsk where
  page := if o.page.getD 0 = 0 then 1 else o.page.getD 0
  perPage := if o.perPage.getD 0 = 0 then defaultPerPage else o.perPage.getD 0

theorem first_page_pos (o : PageOptions) (defaultPerPage : UInt32) :
    0 < (o.first defaultPerPage).page.toNat := by
  by_cases hPage : o.page.getD 0 = 0
  · rw [first, if_pos hPage]
    exact Nat.one_pos
  · rw [first, if_neg hPage]
    exact UInt32.lt_iff_toNat_lt.mp (UInt32.pos_iff_ne_zero.mpr hPage)

theorem isAuto_eq_false_iff (o : PageOptions) :
    o.isAuto = false ↔ o.page.getD 0 ≠ 0 ∨ o.perPage.getD 0 ≠ 0 := by
  rw [isAuto, Bool.and_eq_false_iff, beq_eq_false_iff_ne, beq_eq_false_iff_ne]

end PageOptions

namespace Client.PageWalk

variable {auto : Bool} {w w' : PageWalk α} {envelope : Envelope (List α)}

def ask (w : PageWalk α) : PageAsk :=
  ⟨w.page, w.perPage⟩

theorem advance_eq (auto : Bool) (w : PageWalk α) (envelope : Envelope (List α)) :
    w.advance auto envelope =
      match (envelope.info.getD {}).next? with
      | none => .error .pageOverflow
      | some next =>
        match w.ask.following auto envelope with
        | some a => .ok (.inl ⟨w.items ++ envelope.result.getD [], a.page, a.perPage⟩)
        | none => .ok (.inr (w.items ++ envelope.result.getD [], next)) := by
  have hStops : ∀ next : ResultInfo, (next.done || !auto || decide (next.page ≤ w.page)) = true ↔
      ¬(auto = true ∧ next.done = false ∧ w.page < next.page) := by
    intro next
    rw [← UInt32.not_le]
    cases auto <;> cases next.done <;> simp
  have hSize : ∀ size : UInt32, (if 0 < size then size else w.perPage) =
      if size = 0 then w.perPage else size := by
    intro size
    by_cases hZero : size = 0
    · subst hZero
      rfl
    · rw [if_pos (UInt32.pos_iff_ne_zero.mpr hZero), if_neg hZero]
  unfold advance PageAsk.following ask
  rcases (envelope.info.getD {}).next? with _ | next
  · rfl
  · simp only [hStops, hSize, Option.bind_eq_bind, Option.bind_some]
    by_cases hMore : auto = true ∧ next.done = false ∧ w.page < next.page
    · rw [if_neg (not_not_intro hMore), if_pos hMore]
      rfl
    · rw [if_pos hMore, if_neg hMore]

theorem next?_of_advance_eq_error {e : Error} (h : w.advance auto envelope = .error e) :
    (envelope.info.getD {}).next? = none ∧ e = .pageOverflow := by
  rw [advance_eq] at h
  split at h
  · rename_i hNone
    cases h
    exact ⟨hNone, rfl⟩
  · split at h <;> cases h

theorem following_of_advance_eq_error {e : Error} (h : w.advance auto envelope = .error e) :
    w.ask.following auto envelope = none := by
  rw [PageAsk.following, (next?_of_advance_eq_error h).1]
  rfl

theorem following_of_advance_eq_inl (h : w.advance auto envelope = .ok (.inl w')) :
    w.ask.following auto envelope = some w'.ask ∧
      w'.items = w.items ++ envelope.result.getD [] ∧ (envelope.info.getD {}).next? ≠ none := by
  rw [advance_eq] at h
  split at h
  · cases h
  · rename_i hNext
    split at h
    · rename_i hMore
      cases h
      exact ⟨hMore, rfl, by simp [hNext]⟩
    · cases h

theorem following_of_advance_eq_inr {items : List α} {info : ResultInfo}
    (h : w.advance auto envelope = .ok (.inr (items, info))) :
    w.ask.following auto envelope = none ∧
      items = w.items ++ envelope.result.getD [] ∧ (envelope.info.getD {}).next? = some info := by
  rw [advance_eq] at h
  split at h
  · cases h
  · rename_i hNext
    split at h
    · cases h
    · rename_i hLast
      cases h
      exact ⟨hLast, rfl, hNext⟩

end Client.PageWalk

/-! ## The pages asked for -/

/-- Only advancing overflows. -/
theorem Turn.envelope_ne_pageOverflow {β : Type} (turn : Turn) (c : Codec β) :
    turn.envelope c ≠ .error .pageOverflow := by
  intro h
  obtain ⟨request, cause | response⟩ := turn
  · cases h
  · rw [Turn.envelope, Turn.response] at h
    dsimp only at h
    split at h
    · cases h
    · change response.envelope c = _ at h
      unfold Response.envelope at h
      split at h
      · cases h
      · split at h <;> cases h

def Turn.leadsTo (c : Codec α) (auto : Bool) (turn : Turn) (a : PageAsk) : Option PageAsk :=
  match turn.envelope (.list c) with
  | .ok envelope => a.following auto envelope
  | .error _ => none

/-- What every turn asks for: the first page, and then what the answers lead to. -/
def pagesAsked (c : Codec α) (auto : Bool) : Option PageAsk → List Turn → List PageAsk
  | some a, turn :: turns => a :: pagesAsked c auto (turn.leadsTo c auto a) turns
  | _, _ => []

@[simp] theorem pagesAsked_nil (c : Codec α) (auto : Bool) (a : Option PageAsk) :
    pagesAsked c auto a [] = [] := by
  cases a <;> rfl

@[simp] theorem pagesAsked_none (c : Codec α) (auto : Bool) (turns : List Turn) :
    pagesAsked c auto none turns = [] := by
  cases turns <;> rfl

theorem pagesAsked_singleton (c : Codec α) (auto : Bool) (a : PageAsk) (turn : Turn) :
    pagesAsked c auto (some a) [turn] = [a] := by
  rw [pagesAsked, pagesAsked_nil]

/-- Nothing is asked for after the only turn if its answer leads nowhere. -/
theorem pagesAsked_succ_singleton {c : Codec α} {auto : Bool} {a b : PageAsk} {turn only : Turn}
    {envelope envelope' : Envelope (List α)} {i : Nat}
    (hRead : only.envelope (.list c) = .ok envelope') (hNone : b.following auto envelope' = none)
    (hTurn : [only][i]? = some turn)
    (hAsk : (pagesAsked c auto (some b) [only])[i]? = some a)
    (hEnvelope : turn.envelope (.list c) = .ok envelope) :
    (pagesAsked c auto (some b) [only])[i + 1]? = a.following auto envelope := by
  rw [pagesAsked_singleton] at hAsk ⊢
  rcases i with _ | i
  · cases hTurn
    cases hAsk
    obtain rfl := Except.ok.inj (hRead.symm.trans hEnvelope)
    rw [hNone]
    rfl
  · simp at hTurn

namespace Walk.Takes

variable {c : Codec α} {path : String} {filters : Uri.Query} {auto cancelled : Bool}
  {w : PageWalk α} {turns : List Turn} {outcome : Except Error (List α × ResultInfo)}

theorem leadsTo_eq {w' : PageWalk α} {turn : Turn} {envelope : Envelope (List α)}
    (hEnvelope : turn.envelope (.list c) = .ok envelope)
    (hAdvance : w.advance auto envelope = .ok (.inl w')) :
    turn.leadsTo c auto w.ask = some w'.ask := by
  rw [Turn.leadsTo, hEnvelope]
  exact (PageWalk.following_of_advance_eq_inl hAdvance).1

theorem map_request_pages (h : (pageWalk c path filters auto).Takes cancelled w turns outcome) :
    turns.map Turn.request =
      (pagesAsked c auto (some w.ask) turns).map (PageAsk.request path filters) := by
  induction h with
  | unsent _ => rfl
  | failed hRequest _ | stuck hRequest _ _ | ended hRequest _ _ =>
    rw [pagesAsked_singleton]
    exact congrArg (fun request => [request]) hRequest
  | next hRequest hEnvelope hAdvance _ ih =>
    rw [pagesAsked, leadsTo_eq hEnvelope hAdvance, List.map_cons, List.map_cons, hRequest, ih]
    rfl

theorem isChain_pages (h : (pageWalk c path filters auto).Takes cancelled w turns outcome) :
    (pagesAsked c auto (some w.ask) turns).IsChain fun a b => a.page < b.page := by
  induction h with
  | unsent _ => exact .nil
  | failed | stuck | ended =>
    rw [pagesAsked_singleton]
    exact .singleton _
  | @next w w' turn envelope turns _ _ hEnvelope hAdvance _ ih =>
    rw [pagesAsked, leadsTo_eq hEnvelope hAdvance]
    rcases turns with _ | ⟨turn', turns⟩
    · exact .singleton _
    · have hMoves := PageAsk.page_lt_of_following
        (PageWalk.following_of_advance_eq_inl hAdvance).1
      exact List.isChain_cons_cons.mpr ⟨hMoves, ih⟩

/-- As the page grows with every turn, there are no more turns than pages left to name. -/
theorem length_add_page_le (h : (pageWalk c path filters auto).Takes cancelled w turns outcome) :
    turns.length + w.page.toNat ≤ UInt32.size := by
  have hBound : ∀ n : UInt32, n.toNat < UInt32.size := UInt32.toNat_lt
  induction h with
  | @unsent w _ =>
    have hPage := hBound w.page
    simp only [List.length_nil]
    omega
  | @failed w _ _ _ _ | @stuck w _ _ _ _ _ _ | @ended w _ _ _ _ _ _ =>
    have hPage := hBound w.page
    simp only [List.length_singleton]
    omega
  | @next w w' _ _ _ _ _ _ hAdvance _ ih =>
    have hMoves : w.page < w'.page := PageAsk.page_lt_of_following
      (PageWalk.following_of_advance_eq_inl hAdvance).1
    have hNat := UInt32.lt_iff_toNat_lt.mp hMoves
    rw [List.length_cons]
    omega

/-- A page is asked for exactly if the answer before leads to it, but none once the token is
cancelled. -/
theorem pagesAsked_succ (h : (pageWalk c path filters auto).Takes cancelled w turns outcome)
    {i : Nat} {turn : Turn} {a : PageAsk} {envelope : Envelope (List α)}
    (hTurn : turns[i]? = some turn)
    (hAsk : (pagesAsked c auto (some w.ask) turns)[i]? = some a)
    (hEnvelope : turn.envelope (.list c) = .ok envelope) :
    (pagesAsked c auto (some w.ask) turns)[i + 1]? = a.following auto envelope ∨
      cancelled = true ∧ (pagesAsked c auto (some w.ask) turns)[i + 1]? = none := by
  induction h generalizing i with
  | unsent _ => simp at hTurn
  | @failed w turn' e _ hError =>
    rcases i with _ | i
    · cases hTurn
      exact absurd (hError.symm.trans hEnvelope) nofun
    · simp at hTurn
  | stuck _ hRead hAdvance =>
    have hNone := PageWalk.following_of_advance_eq_error hAdvance
    exact .inl (pagesAsked_succ_singleton hRead hNone hTurn hAsk hEnvelope)
  | ended _ hRead hAdvance =>
    have hNone := (PageWalk.following_of_advance_eq_inr hAdvance).1
    exact .inl (pagesAsked_succ_singleton hRead hNone hTurn hAsk hEnvelope)
  | @next w w' turn' envelope' turns outcome _ hRead hAdvance hRest ih =>
    rw [pagesAsked, leadsTo_eq hRead hAdvance] at hAsk ⊢
    rcases i with _ | i
    · cases hTurn
      cases hAsk
      obtain rfl := Except.ok.inj (hRead.symm.trans hEnvelope)
      rw [(PageWalk.following_of_advance_eq_inl hAdvance).1]
      rcases turns with _ | ⟨turn', turns⟩
      · cases hRest with
        | unsent hCancelled => exact .inr ⟨hCancelled, by simp⟩
      · exact .inl rfl
    · exact ih hTurn hAsk

/-- A listing that comes through holds the items of all answers in their order, and the last info
advanced. -/
theorem result_pages (h : (pageWalk c path filters auto).Takes cancelled w turns outcome)
    {items : List α} {info : ResultInfo} (hOutcome : outcome = .ok (items, info)) :
    items = w.items ++ turns.flatMap (Turn.items c) ∧
      ∃ envelope, turns.getLast?.map (Turn.envelope (.list c)) = some (.ok envelope) ∧
        (envelope.info.getD {}).next? = some info := by
  induction h with
  | unsent | failed | stuck => cases hOutcome
  | @ended w turn envelope _ _ hEnvelope hAdvance =>
    cases hOutcome
    obtain ⟨_, rfl, hNext⟩ := PageWalk.following_of_advance_eq_inr hAdvance
    refine ⟨?_, envelope, congrArg some hEnvelope, hNext⟩
    rw [List.flatMap_singleton, Turn.items_eq hEnvelope]
  | @next w w' turn envelope turns _ _ hEnvelope hAdvance hRest ih =>
    obtain ⟨hItems, last, hLast, hInfo⟩ := ih hOutcome
    refine ⟨?_, last, ?_, hInfo⟩
    · rw [hItems, (PageWalk.following_of_advance_eq_inl hAdvance).2.1, List.flatMap_cons,
        Turn.items_eq hEnvelope, List.append_assoc]
    · rcases turns with _ | ⟨turn', turns⟩
      · cases hLast
      · exact hLast

/-- Only the last answer can make a listing overflow, and it does if its info cannot be advanced. -/
theorem eq_pageOverflow_iff (h : (pageWalk c path filters auto).Takes cancelled w turns outcome) :
    outcome = .error .pageOverflow ↔
      ∃ envelope, turns.getLast?.map (Turn.envelope (.list c)) = some (.ok envelope) ∧
        (envelope.info.getD {}).next? = none := by
  induction h with
  | unsent => simp
  | @failed w turn e _ hError =>
    constructor
    · rintro ⟨⟩
      exact absurd hError (turn.envelope_ne_pageOverflow (.list c))
    · rintro ⟨envelope, hLast, -⟩
      exact absurd (hError.symm.trans (Option.some.inj hLast)) nofun
  | @stuck w turn envelope e _ hEnvelope hAdvance =>
    obtain ⟨hNone, rfl⟩ := PageWalk.next?_of_advance_eq_error hAdvance
    exact ⟨fun _ => ⟨envelope, congrArg some hEnvelope, hNone⟩, fun _ => rfl⟩
  | @ended w turn envelope result _ hEnvelope hAdvance =>
    obtain ⟨-, -, hNext⟩ := PageWalk.following_of_advance_eq_inr hAdvance
    refine ⟨nofun, ?_⟩
    rintro ⟨last, hLast, hNone⟩
    obtain rfl := Except.ok.inj (hEnvelope.symm.trans (Option.some.inj hLast))
    exact absurd (hNext.symm.trans hNone) nofun
  | @next w w' turn envelope turns outcome _ hEnvelope hAdvance hRest ih =>
    rw [ih]
    rcases turns with _ | ⟨turn', turns⟩
    · refine ⟨by simp, ?_⟩
      rintro ⟨last, hLast, hNone⟩
      obtain rfl := Except.ok.inj (hEnvelope.symm.trans (Option.some.inj hLast))
      exact absurd hNone (PageWalk.following_of_advance_eq_inl hAdvance).2.2
    · rfl

theorem exists_result_pages (h : (pageWalk c path filters auto).Takes cancelled w turns outcome)
    (hActive : cancelled = false)
    (hRead : ∀ turn ∈ turns, ∃ envelope, turn.envelope (.list c) = .ok envelope) :
    outcome = .error .pageOverflow ∨ ∃ items info, outcome = .ok (items, info) := by
  induction h with
  | unsent hCancelled => exact absurd (hActive.symm.trans hCancelled) nofun
  | @failed w turn e _ hError =>
    obtain ⟨envelope, hEnvelope⟩ := hRead turn (.head _)
    exact absurd (hError.symm.trans hEnvelope) nofun
  | stuck _ _ hAdvance =>
    left
    rw [(PageWalk.next?_of_advance_eq_error hAdvance).2]
  | ended _ _ _ => exact .inr ⟨_, _, rfl⟩
  | next _ _ _ _ ih => exact ih fun turn hMem => hRead turn (.tail _ hMem)

end Walk.Takes

/-- Against any server the pages asked for increase strictly, so a listing makes less than `2 ^ 32`
requests. It asks for what was picked first and then for exactly what each answer leads to, until
the token is cancelled. A picked page is the only one. The items are those of all answers, and the
info is the last one advanced. It overflows exactly if the last answer says of the page with the
largest number that it is the last one; otherwise a listing that is not cancelled ends well if its
answers can be read. -/
theorem listPages_increasing (c : Codec α) (path : String) (filters : Uri.Query)
    (options : PageOptions) (defaultPerPage : UInt32) (s : Session) :
    ∃ turns asked, Dialogue s turns
        ((listPages c path filters options defaultPerPage).run s).2 ∧
      turns.map Turn.request = asked.map (PageAsk.request path filters) ∧
      asked.Pairwise (fun a b => a.page < b.page) ∧ asked.length < UInt32.size ∧
      (asked.head? = some (options.first defaultPerPage) ∨
        ((listPages c path filters options defaultPerPage).run s).2.cancelled = true ∧
          asked = []) ∧
      (∀ i turn a envelope, turns[i]? = some turn → asked[i]? = some a →
        turn.envelope (.list c) = .ok envelope →
          asked[i + 1]? = a.following options.isAuto envelope ∨
            ((listPages c path filters options defaultPerPage).run s).2.cancelled = true ∧
              asked[i + 1]? = none) ∧
      (options.page.getD 0 ≠ 0 ∨ options.perPage.getD 0 ≠ 0 →
        asked <+: [options.first defaultPerPage]) ∧
      (∀ items info,
        ((listPages c path filters options defaultPerPage).run s).1 = .ok (items, info) →
          items = turns.flatMap (Turn.items c) ∧
          ∃ envelope, turns.getLast?.map (Turn.envelope (.list c)) = some (.ok envelope) ∧
            (envelope.info.getD {}).next? = some info) ∧
      (((listPages c path filters options defaultPerPage).run s).1 = .error .pageOverflow ↔
        ∃ envelope, turns.getLast?.map (Turn.envelope (.list c)) = some (.ok envelope) ∧
          (envelope.info.getD {}).page = ResultInfo.lastNumber ∧
          (envelope.info.getD {}).totalPages = ResultInfo.lastNumber) ∧
      (((listPages c path filters options defaultPerPage).run s).2.cancelled = false →
        (∀ turn ∈ turns, ∃ envelope, turn.envelope (.list c) = .ok envelope) →
          ((listPages c path filters options defaultPerPage).run s).1 = .error .pageOverflow ∨
            ∃ items info,
              ((listPages c path filters options defaultPerPage).run s).1 = .ok (items, info)) := by
  obtain ⟨turns, hDialogue, hTakes⟩ :=
    (isStep_pageStep c path filters options.isAuto).exists_takes
      ⟨[], (options.first defaultPerPage).page, (options.first defaultPerPage).perPage⟩ s
  have hRequests := hTakes.map_request_pages
  have hLength : (pagesAsked c options.isAuto (some (options.first defaultPerPage)) turns).length =
      turns.length := by
    have hSame := congrArg List.length hRequests
    rw [List.length_map, List.length_map] at hSame
    exact hSame.symm
  refine ⟨turns, pagesAsked c options.isAuto (some (options.first defaultPerPage)) turns, hDialogue,
    hRequests, ?_, ?_, ?_, ?_, ?_, fun items info hOutcome => hTakes.result_pages hOutcome, ?_,
    hTakes.exists_result_pages⟩
  · have hTrans : IsTrans PageAsk fun a b => a.page < b.page := ⟨fun _ _ _ => UInt32.lt_trans⟩
    exact hTakes.isChain_pages.pairwise
  · have hBound := hTakes.length_add_page_le
    have hFirst := options.first_page_pos defaultPerPage
    rw [hLength]
    dsimp only at hBound
    omega
  · rcases turns with _ | ⟨turn, turns⟩
    · exact .inr ⟨hTakes.cancelled_of_nil, by simp⟩
    · exact .inl rfl
  · intro i turn a envelope hTurn hAsk hEnvelope
    exact hTakes.pagesAsked_succ hTurn hAsk hEnvelope
  · intro hPicked
    rcases turns with _ | ⟨turn, turns⟩
    · rw [pagesAsked_nil]
      exact List.nil_prefix
    · have hNone : turn.leadsTo c options.isAuto (options.first defaultPerPage) = none := by
        rw [Turn.leadsTo, (options.isAuto_eq_false_iff).mpr hPicked]
        rcases turn.envelope (.list c) with e | envelope <;> simp [PageAsk.following]
      simp only [pagesAsked, hNone, pagesAsked_none, List.prefix_rfl]
  · have hEnds := hTakes.eq_pageOverflow_iff
    simp only [ResultInfo.next?_eq_none_iff] at hEnds
    exact hEnds

/-! A listing of lists, told of the page with the largest number that it is the last one. -/

def longestReply (_ : Request) : Delivery where
  outcome := .ok
    { status := 200
      body := Text.Utf8.encode <| "\x7b\"success\":true,\"result\":[]," ++
        "\"result_info\":\x7b\"page\":4294967295,\"total_pages\":4294967295\x7d\x7d" }

def longestListing : Except Error (List Lists.ItemList × ResultInfo) × Session :=
  ((Operation.listLists { page := some 1 }).run ⟨.account, "A"⟩).run { inbox := [longestReply] }

theorem longestListing_overflows :
    longestListing.1 = .error .pageOverflow ∧ longestListing.2.cancelled = false ∧
      longestListing.2.sent.map (·.request.path) =
        ["/accounts/A/rules/lists?page=1&per_page=25"] := by
  decide +kernel

end EdgeApi
