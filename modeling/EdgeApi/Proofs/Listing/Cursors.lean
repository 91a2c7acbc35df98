import Mathlib.Data.List.Chain
import EdgeApi.Operation
import EdgeApi.Proofs.Listing.Walk

/-!
# Listings by cursors

Which cursors a listing asks for. A walk sees only the cursor handed over last, so it ends with one
that comes twice in a row, but not with one that comes back later.
-/

set_option autoImplicit false

namespace EdgeApi

open Client

variable {α : Type}

/-- The cursor that an envelope hands over, empty if there is none. -/
def Envelope.handed (envelope : Envelope α) : String :=
  (envelope.info.getD {}).nextCursor

namespace Client

namespace CursorWalk

variable {w w' : CursorWalk α} {envelope : Envelope (List α)}

def advance (w : CursorWalk α) (envelope : Envelope (List α)) :
    Except Error (CursorWalk α ⊕ (List α × ResultInfo)) :=
  let items := w.items ++ envelope.result.getD []
  let info := envelope.info.getD {}
  if info.nextCursor.isEmpty || info.nextCursor == w.previous then .ok (.inr (items, info))
  else .ok (.inl ⟨items, some info.nextCursor, info.nextCursor⟩)

def events (path : String) (w : CursorWalk α) (envelope : Envelope (List α)) : List LogEvent :=
  [cursorEvent path (w.items ++ envelope.result.getD []).length (envelope.info.getD {}).nextCursor]

theorem eq_of_advance_eq_inl (h : w.advance envelope = .ok (.inl w')) :
    envelope.handed ≠ "" ∧ envelope.handed ≠ w.previous ∧
      w' = ⟨w.items ++ envelope.result.getD [], some envelope.handed, envelope.handed⟩ := by
  unfold advance at h
  dsimp only at h
  split at h
  · cases h
  · rename_i hGoes
    cases h
    simp only [Bool.or_eq_true, beq_iff_eq, not_or, String.isEmpty_iff] at hGoes
    exact ⟨hGoes.1, hGoes.2, rfl⟩

theorem eq_of_advance_eq_inr {result : List α × ResultInfo}
    (h : w.advance envelope = .ok (.inr result)) :
    result = (w.items ++ envelope.result.getD [], envelope.info.getD {}) := by
  unfold advance at h
  dsimp only at h
  split at h <;> cases h
  rfl

end CursorWalk

def cursorWalk (c : Codec α) (path : String) (filters : Uri.Query) :
    Walk (CursorWalk α) (List α) (List α × ResultInfo) where
  codec := .list c
  path w := (cursorRequest path filters w.cursor).path
  advance := CursorWalk.advance
  events := CursorWalk.events path

theorem isStep_cursorStep (c : Codec α) (path : String) (filters : Uri.Query) :
    (cursorWalk c path filters).IsStep (cursorStep c path filters) := by
  intro w s
  simp only [cursorStep, run_bind, cursorWalk, cursorRequest]
  rcases (request (.list c) .get _).run s with ⟨e | envelope, s'⟩
  · rfl
  · simp only [run_tell, CursorWalk.advance, CursorWalk.events]
    split <;> rfl

end Client

/-! ## The cursors asked for -/

namespace Turn

variable (c : Codec α) (turn : Turn)

def handed : Option String :=
  match turn.envelope (.list c) with
  | .ok envelope => some envelope.handed
  | .error _ => none

variable {c turn} {envelope : Envelope (List α)}

theorem handed_eq (h : turn.envelope (.list c) = .ok envelope) :
    turn.handed c = some envelope.handed := by
  rw [handed, h]

end Turn

/-- The cursor of every turn: the first one, and then those handed over. -/
def asked (c : Codec α) : Option String → List Turn → List (Option String)
  | _, [] => []
  | cursor, turn :: turns => cursor :: asked c (turn.handed c) turns

theorem length_asked (c : Codec α) (cursor : Option String) (turns : List Turn) :
    (asked c cursor turns).length = turns.length := by
  induction turns generalizing cursor with
  | nil => rfl
  | cons turn turns ih => rw [asked, List.length_cons, List.length_cons, ih]

/-- Where neighbours differ, only what comes back after something else is there twice. -/
theorem nodup_iff_of_isChain {β : Type} {l : List β} (hChain : l.IsChain (· ≠ ·)) :
    l.Nodup ↔ ∀ i j (hj : j < l.length) (hij : i + 1 < j), l[i] ≠ l[j] := by
  rw [List.nodup_iff_pairwise_ne, List.pairwise_iff_getElem]
  constructor
  · intro hApart i j hj hij
    exact hApart i j (by omega) hj (by omega)
  · intro hApart i j hi hj hij
    by_cases hNext : i + 1 = j
    · subst hNext
      exact List.isChain_iff_getElem.mp hChain i hj
    · exact hApart i j hj (by omega)

namespace Walk.Takes

variable {c : Codec α} {path : String} {filters : Uri.Query} {w : CursorWalk α} {cancelled : Bool}
  {turns : List Turn} {outcome : Except Error (List α × ResultInfo)}

theorem map_request (h : (cursorWalk c path filters).Takes cancelled w turns outcome) :
    turns.map Turn.request = (asked c w.cursor turns).map (cursorRequest path filters) := by
  induction h with
  | unsent => rfl
  | failed hRequest _ | stuck hRequest _ _ | ended hRequest _ _ =>
    exact congrArg (fun request => [request]) hRequest
  | next hRequest hEnvelope hAdvance _ ih =>
    obtain ⟨_, _, rfl⟩ := CursorWalk.eq_of_advance_eq_inl hAdvance
    rw [asked, Turn.handed_eq hEnvelope, List.map_cons, List.map_cons, hRequest, ih]
    rfl

/-- From the second turn on, no cursor is asked for twice in a row. -/
theorem isChain_asked (h : (cursorWalk c path filters).Takes cancelled w turns outcome)
    (hPrevious : w.cursor = some w.previous) : (asked c w.cursor turns).IsChain (· ≠ ·) := by
  induction h with
  | unsent => exact .nil
  | failed | stuck | ended => exact .singleton _
  | @next w w' turn envelope turns _ _ hEnvelope hAdvance _ ih =>
    obtain ⟨_, hMoves, rfl⟩ := CursorWalk.eq_of_advance_eq_inl hAdvance
    have hRest := ih rfl
    rw [asked, Turn.handed_eq hEnvelope]
    rcases turns with _ | ⟨turn', turns⟩
    · exact .singleton _
    · refine List.isChain_cons_cons.mpr ⟨?_, hRest⟩
      rw [hPrevious]
      exact fun hSame => hMoves (Option.some.inj hSame).symm

theorem isChain_tail_asked (h : (cursorWalk c path filters).Takes cancelled w turns outcome) :
    (asked c w.cursor turns).tail.IsChain (· ≠ ·) := by
  cases h with
  | unsent | failed | stuck | ended => exact .nil
  | next _ hEnvelope hAdvance hRest =>
    obtain ⟨_, _, rfl⟩ := CursorWalk.eq_of_advance_eq_inl hAdvance
    rw [asked, Turn.handed_eq hEnvelope]
    exact hRest.isChain_asked rfl

theorem items_eq (h : (cursorWalk c path filters).Takes cancelled w turns outcome)
    {result : List α × ResultInfo} (hOutcome : outcome = .ok result) :
    result.1 = w.items ++ turns.flatMap (Turn.items c) := by
  induction h with
  | unsent | failed | stuck => cases hOutcome
  | ended _ hEnvelope hAdvance =>
    cases hOutcome
    rw [CursorWalk.eq_of_advance_eq_inr hAdvance, List.flatMap_singleton, Turn.items_eq hEnvelope]
  | next _ hEnvelope hAdvance _ ih =>
    obtain ⟨_, _, rfl⟩ := CursorWalk.eq_of_advance_eq_inl hAdvance
    rw [ih hOutcome, List.flatMap_cons, Turn.items_eq hEnvelope, List.append_assoc]

end Walk.Takes

/-- A listing by cursors asks for the first cursor and then for those handed over. It never asks for
one twice exactly if the first one is not handed back and no other one comes back after a different
one; then it ends as soon as all cursors there are have been handed over. -/
theorem nodup_asked_iff (c : Codec α) (path : String) (filters : Uri.Query) (start : Option String)
    (s : Session) :
    ∃ turns, Dialogue s turns ((listCursor c path filters start).run s).2 ∧
      turns.map Turn.request = (asked c start turns).map (cursorRequest path filters) ∧
      (∀ items info, ((listCursor c path filters start).run s).1 = .ok (items, info) →
        items = turns.flatMap (Turn.items c)) ∧
      ((asked c start turns).Nodup ↔
        start ∉ (asked c start turns).tail ∧
          ∀ i j (hj : j < (asked c start turns).tail.length) (hij : i + 1 < j),
            (asked c start turns).tail[i] ≠ (asked c start turns).tail[j]) ∧
      ∀ known, (asked c start turns).Nodup → (asked c start turns).tail ⊆ known →
        turns.length ≤ known.length + 1 := by
  obtain ⟨turns, hDialogue, hTakes⟩ :=
    (isStep_cursorStep c path filters).exists_takes ⟨[], start, ""⟩ s
  have hChain : (asked c start turns).tail.IsChain (· ≠ ·) := hTakes.isChain_tail_asked
  refine ⟨turns, hDialogue, hTakes.map_request, ?_, ?_, ?_⟩
  · intro items info hOutcome
    exact hTakes.items_eq hOutcome
  · rw [← nodup_iff_of_isChain hChain]
    rcases turns with _ | ⟨turn, turns⟩
    · simp [asked]
    · exact List.nodup_cons
  · intro known hNodup hKnown
    have hTail := (List.Nodup.sublist (List.tail_sublist _) hNodup).length_le_of_subset hKnown
    rw [List.length_tail, length_asked] at hTail
    omega

/-! Keys of a namespace, listed against replies that hand over given cursors. -/

def keyReply (cursor : String) (_ : Request) : Delivery where
  outcome := .ok
    { status := 200
      body := Text.Utf8.encode <| "\x7b\"success\":true,\"result\":[\x7b\"name\":\"k\"\x7d]," ++
        "\"result_info\":\x7b\"cursor\":\"" ++ cursor ++ "\"\x7d\x7d" }

def keyPaths (start : Option String) (cursors : List String) : List String :=
  (((Operation.listKeys "N" none none start).run ⟨.account, "A"⟩).run
    { inbox := cursors.map keyReply }).2.sent.map fun sent => sent.request.path

theorem not_nodup_keyPaths :
    ¬ (keyPaths (some "x") ["x", "x", "x"]).Nodup ∧
      ¬ (keyPaths none ["a", "b", "a", "b"]).Nodup := by
  decide +kernel

end EdgeApi
