import EdgeApi.Proofs.Listing.Cursors
import EdgeApi.Proofs.Uri.Query

/-!
# Listings by cursors along a chain

Pages that each hand over the cursor of the next one. A listing follows such a chain to its end: it
stops at no page before the last, and it sends every cursor as it was handed over.
-/

set_option autoImplicit false

namespace EdgeApi

open Client

variable {α : Type}

/-- Pages linked by cursors, all different, up to a last page without one. -/
structure CursorChain (α : Type) where
  /-- The pages before the last one, each with the cursor of the page after it. -/
  linked : List (List α × String)
  last : List α
  nodup : (linked.map Prod.snd).Nodup
  empty_not_mem : "" ∉ linked.map Prod.snd

/-- The info of a page hands over a cursor in `cursors.after`, or in `cursor` if there is none in
`cursors.after`. Info that hands over the empty cursor may be missing. -/
inductive Hands (cursor : String) : Option ResultInfo → Prop
  | after {info : ResultInfo} : info.cursors.after = cursor → cursor ≠ "" → Hands cursor (some info)
  | flat {info : ResultInfo} :
      info.cursors.after = "" → info.cursor = cursor → Hands cursor (some info)
  | missing : cursor = "" → Hands cursor none

theorem hands_iff {cursor : String} {info : Option ResultInfo} :
    Hands cursor info ↔ (info.getD {}).nextCursor = cursor := by
  unfold ResultInfo.nextCursor
  constructor
  · rintro (⟨rfl, hFilled⟩ | ⟨hAfter, rfl⟩ | rfl)
    · simp [hFilled]
    · simp [hAfter]
    · rfl
  · rcases info with _ | info
    · rintro rfl
      exact .missing rfl
    · by_cases hAfter : info.cursors.after = ""
      · simpa [hAfter] using Hands.flat hAfter
      · rintro rfl
        simpa [hAfter] using Hands.after rfl hAfter

namespace CursorChain

def pages (k : CursorChain α) : List (List α × String) :=
  k.linked ++ [(k.last, "")]

def items (k : CursorChain α) : List α :=
  k.pages.flatMap Prod.fst

def cursors (k : CursorChain α) (start : Option String) : List (Option String) :=
  start :: k.linked.map fun page => some page.2

theorem length_cursors (k : CursorChain α) (start : Option String) :
    (k.cursors start).length = k.pages.length := by
  simp [cursors, pages]

def Answers (c : Codec α) (page : List α × String) (delivery : Delivery) : Prop :=
  ∃ response envelope, delivery.outcome = .ok response ∧ response.status < 400 ∧
    response.envelope (.list c) = .ok envelope ∧ envelope.result.getD [] = page.1 ∧
    Hands page.2 envelope.info

/-- Replies that hold one page after the other. A reply need only answer the request that asks for
what the page before handed over. -/
inductive Serves (c : Codec α) (path : String) (filters : Uri.Query) :
    Option String → List (List α × String) → List (Request → Delivery) → Prop
  | done {cursor : Option String} : Serves c path filters cursor [] []
  | page {cursor : Option String} {page : List α × String} {pages : List (List α × String)}
      {reply : Request → Delivery} {replies : List (Request → Delivery)} :
      Answers c page (reply (cursorRequest path filters cursor)) →
      Serves c path filters (some page.2) pages replies →
      Serves c path filters cursor (page :: pages) (reply :: replies)

variable {c : Codec α} {path : String} {filters : Uri.Query} {s : Session}
  {reply : Request → Delivery} {replies rest : List (Request → Delivery)}

theorem run_cursorStep {page : List α × String} {w : CursorWalk α} (hs : s.Calm)
    (hInbox : s.inbox = reply :: rest)
    (hReply : Answers c page (reply (cursorRequest path filters w.cursor))) :
    ∃ next s', (cursorStep c path filters w).run s = (next, s') ∧
      (page.2 ≠ "" → page.2 ≠ w.previous →
        next = .ok (.inl ⟨w.items ++ page.1, some page.2, page.2⟩)) ∧
      (page.2 = "" → ∃ info : ResultInfo,
        next = .ok (.inr (w.items ++ page.1, info)) ∧ info.nextCursor = "") ∧
      s'.Calm ∧ s'.inbox = rest ∧
      s'.sent = s.sent ++ [⟨cursorRequest path filters w.cursor, s.now⟩] := by
  obtain ⟨response, envelope, hOutcome, hStatus, hBody, hItems, hHands⟩ := hReply
  obtain ⟨s', hRun, hCalm, hRest, hSent⟩ : ∃ s',
      (request (.list c) .get (cursorRequest path filters w.cursor).path).run s =
        (.ok envelope, s') ∧ s'.Calm ∧ s'.inbox = rest ∧
      s'.sent = s.sent ++ [⟨cursorRequest path filters w.cursor, s.now⟩] :=
    run_request_of_calm hs hInbox hOutcome hStatus hBody
  have hCursor := hands_iff.mp hHands
  refine ⟨w.advance envelope, _, (isStep_cursorStep c path filters).run_ok hRun, ?_, ?_,
    hCalm.tell _, hRest, hSent⟩
  · intro hFilled hMoves
    simp [CursorWalk.advance, hCursor, hItems, hFilled, hMoves]
  · intro hEmpty
    refine ⟨envelope.info.getD {}, ?_, hCursor.trans hEmpty⟩
    simp [CursorWalk.advance, hCursor, hItems, hEmpty]

theorem run_walk (linked : List (List α × String)) (last : List α) {w : CursorWalk α}
    (hApart : (w.previous :: linked.map Prod.snd).Nodup) (hFilled : "" ∉ linked.map Prod.snd)
    (hs : s.Calm) (hInbox : s.inbox = replies ++ rest)
    (hServes : Serves c path filters w.cursor (linked ++ [(last, "")]) replies) :
    ∃ info s', (repeatUntil (cursorStep c path filters) w).run s =
        (.ok (w.items ++ (linked ++ [(last, "")]).flatMap Prod.fst, info), s') ∧
      info.nextCursor = "" ∧ s'.inbox = rest ∧
      s'.sent.map Sent.request = s.sent.map Sent.request ++
        (w.cursor :: linked.map fun page => some page.2).map (cursorRequest path filters) := by
  -- a page takes its reply and hands over a cursor that stands nowhere further on
  induction linked generalizing w s replies with
  | nil =>
    rcases hServes with _ | ⟨hReply, hDone⟩
    cases hDone
    obtain ⟨next, s', hRun, -, hEnds, -, hRest, hSent⟩ := run_cursorStep hs hInbox hReply
    obtain ⟨info, rfl, hInfo⟩ := hEnds rfl
    refine ⟨info, s', ?_, hInfo, hRest, by simp [hSent]⟩
    rw [run_repeatUntil (isStep_cursorStep c path filters).consumes, hRun]
    simp
  | cons page linked ih =>
    rcases hServes with _ | ⟨hReply, hServes⟩
    obtain ⟨next, s', hRun, hGoes, -, hCalm, hRest, hSent⟩ := run_cursorStep hs hInbox hReply
    simp only [List.map_cons, List.mem_cons, List.nodup_cons, not_or] at hApart hFilled
    obtain ⟨⟨hMoves, _⟩, hNodup⟩ := hApart
    obtain rfl := hGoes (Ne.symm hFilled.1) (Ne.symm hMoves)
    obtain ⟨info, s'', hWalk, hInfo, hRest', hSent'⟩ :=
      ih (w := ⟨w.items ++ page.1, some page.2, page.2⟩) (List.nodup_cons.mpr hNodup) hFilled.2
        hCalm hRest hServes
    refine ⟨info, s'', ?_, hInfo, hRest', ?_⟩
    · rw [run_repeatUntil (isStep_cursorStep c path filters).consumes, hRun]
      simpa using hWalk
    · rw [hSent', hSent]
      simp

theorem decode_cursorRequest (path : String) (filters : Uri.Query) (cursor : String) :
    ∃ text, (cursorRequest path filters (some cursor)).path = path ++ "?" ++ text ∧
      Uri.Query.decode text = filters ++ [("cursor", cursor)] :=
  ⟨_, Uri.build_of_ne_nil (by simp [Uri.Query.opt]), Uri.Query.decode_encode _⟩

/-- Along a chain a listing makes one request for each page: the first one with the cursor of the
caller, the others with the cursor that the page before handed over, whatever its text. It gives the
items of all pages in their order. -/
theorem listCursor_complete (k : CursorChain α) (c : Codec α) (path : String)
    (filters : Uri.Query) (start : Option String) {s : Session} (hs : s.Calm)
    (hInbox : s.inbox = replies ++ rest)
    (hServes : Serves c path filters start k.pages replies) :
    ∃ info s', (listCursor c path filters start).run s = (.ok (k.items, info), s') ∧
      info.nextCursor = "" ∧ s'.inbox = rest ∧
      s'.sent.length = s.sent.length + k.pages.length ∧
      s'.sent.map Sent.request =
        s.sent.map Sent.request ++ (k.cursors start).map (cursorRequest path filters) ∧
      ∀ cursor, ∃ text, (cursorRequest path filters (some cursor)).path = path ++ "?" ++ text ∧
        Uri.Query.decode text = filters ++ [("cursor", cursor)] := by
  have hApart : ("" :: k.linked.map Prod.snd).Nodup :=
    List.nodup_cons.mpr ⟨k.empty_not_mem, k.nodup⟩
  obtain ⟨info, s', hRun, hInfo, hRest, hSent⟩ :=
    run_walk k.linked k.last (w := ⟨[], start, ""⟩) hApart k.empty_not_mem hs hInbox hServes
  have hLength := congrArg List.length hSent
  refine ⟨info, s', hRun, hInfo, hRest, ?_, hSent, decode_cursorRequest path filters⟩
  rw [← k.length_cursors start]
  simpa [cursors] using hLength

/-! Two pages, the first one with a cursor that needs escapes. -/

def marked : CursorChain String := ⟨[(["a"], "x&y=")], ["b"], by decide, by decide⟩

def markedReply (item info : String) (_ : Request) : Delivery where
  outcome := .ok
    { status := 200
      body := Text.Utf8.encode <| "\x7b\"success\":true,\"result\":[\"" ++ item ++ "\"]" ++
        info ++ "\x7d" }

def markedReplies : List (Request → Delivery) :=
  [markedReply "a" <| ",\"result_info\":\x7b\"cursor\":\"x\"," ++
      "\"cursors\":\x7b\"after\":\"x&y=\"\x7d\x7d",
    markedReply "b" ""]

theorem serves_markedReplies :
    Serves .text "/x" [("limit", "1")] (some "s") marked.pages markedReplies := by
  refine .page ⟨_, ⟨true, [], [], some ["a"], some { cursor := "x", cursors := ⟨"", "x&y="⟩ }⟩,
    rfl, by decide, by decide +kernel, rfl, .after rfl (by decide)⟩ ?_
  exact .page ⟨_, ⟨true, [], [], some ["b"], none⟩, rfl, by decide, by decide +kernel, rfl,
    .missing rfl⟩ .done

theorem listCursor_complete_marked :
    Serves .text "/x" [("limit", "1")] (some "s") marked.pages markedReplies ∧
      ∃ info s', (listCursor .text "/x" [("limit", "1")] (some "s")).run
          { inbox := markedReplies } = (.ok (["a", "b"], info), s') ∧
        info.nextCursor = "" ∧ s'.inbox = [] ∧ s'.sent.length = 2 ∧
        s'.sent.map Sent.request = [cursorRequest "/x" [("limit", "1")] (some "s"),
          cursorRequest "/x" [("limit", "1")] (some "x&y=")] := by
  have hInbox : Session.inbox { inbox := markedReplies } = markedReplies ++ [] :=
    (List.append_nil _).symm
  obtain ⟨info, s', hRun, hInfo, hRest, hLength, hSent, -⟩ :=
    listCursor_complete marked .text "/x" [("limit", "1")] (some "s") ⟨rfl, rfl, rfl⟩ hInbox
      serves_markedReplies
  exact ⟨serves_markedReplies, info, s', hRun, hInfo, hRest, hLength, hSent⟩

end CursorChain

end EdgeApi
