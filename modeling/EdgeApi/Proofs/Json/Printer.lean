import EdgeApi.Proofs.Json.Numerals

/-!
# Printed values

The text that is printed for a value is a document of it.
-/

set_option autoImplicit false

namespace EdgeApi.Json

/-! ## String literals -/

theorem hexDigit_hexDigit {n : ℕ} (h : n < 16) : HexDigit (hexDigit n) n := by
  have hCases : ∀ m < 16, (hexDigit m).isDigit = true ∧ (hexDigit m).toNat - 48 = m ∨
      ('a' ≤ hexDigit m ∧ hexDigit m ≤ 'f') ∧ (hexDigit m).toNat - 87 = m := by
    decide
  rcases hCases n h with ⟨hDigit, hValue⟩ | ⟨⟨hLow, hHigh⟩, hValue⟩
  · have h := HexDigit.digit hDigit
    rwa [hValue] at h
  · have h := HexDigit.lower hLow hHigh
    rwa [hValue] at h

/-- Control characters are escaped by their code. -/
theorem codeUnit_control {n : ℕ} (h : n < 0x20) :
    CodeUnit n ['0', '0', hexDigit (n / 16), hexDigit (n % 16)] := by
  have hZero : HexDigit '0' 0 := .digit rfl
  have hUnit := CodeUnit.digits hZero hZero (hexDigit_hexDigit (show n / 16 < 16 by omega))
    (hexDigit_hexDigit (show n % 16 < 16 by omega))
  have hValue : ((0 * 16 + 0) * 16 + n / 16) * 16 + n % 16 = n := by omega
  rwa [hValue] at hUnit

theorem spellsChar_escapeChar (c : Char) : SpellsChar c (escapeChar c) := by
  have hShort (entry : Char × Char) (h : entry ∈ shortEscapes) :
      SpellsChar entry.1 ['\\', entry.2] := .short h
  unfold escapeChar
  split_ifs with hQuote hEscape hBack hForm hLine hReturn hTab hControl
  · exact hQuote ▸ hShort ('"', '"') (by decide)
  · exact hEscape ▸ hShort ('\\', '\\') (by decide)
  · exact hBack ▸ hShort ('\x08', 'b') (by decide)
  · exact hForm ▸ hShort ('\x0c', 'f') (by decide)
  · exact hLine ▸ hShort ('\n', 'n') (by decide)
  · exact hReturn ▸ hShort ('\r', 'r') (by decide)
  · exact hTab ▸ hShort ('\t', 't') (by decide)
  · exact .unit (codeUnit_control hControl)
  · exact .plain (not_lt.mp hControl) hQuote hEscape

theorem spellsText_quote (s : String) : SpellsText s (quote s).toList := by
  refine ⟨s.toList.map escapeChar, ?_, ?_⟩
  · rw [List.forall₂_map_right_iff, List.forall₂_same]
    intro c _
    exact spellsChar_escapeChar c
  · rw [quote, String.toList_ofList, List.flatMap_def]

/-! ## Values -/

theorem toList_intercalate_cons (text : String) {rest : List String} (h : rest ≠ []) :
    (",".intercalate (text :: rest)).toList =
      text.toList ++ ',' :: (",".intercalate rest).toList := by
  obtain ⟨next, more, rfl⟩ := List.exists_cons_of_ne_nil h
  rw [String.intercalate_cons_cons, String.toList_append, String.toList_append, List.append_assoc]
  rfl

mutual

theorem spells_render (j : Json) : Spells (.value j) (render j).toList := by
  cases j with
  | null => exact .null
  | bool b =>
    cases b with
    | true => exact .true
    | false => exact .false
  | number n => exact .number (spellsNumber_renderNumber n)
  | text s => exact .text (spellsText_quote s)
  | list items =>
    rw [render, String.toList_append, String.toList_append]
    exact .list (spells_renderItems items)
  | object members =>
    rw [render, String.toList_append, String.toList_append]
    exact .object (spells_renderMembers members)

theorem spells_renderItems (items : List Json) :
    Spells (.items items) (",".intercalate (renderItems items)).toList := by
  cases items with
  | nil => exact .noItems
  | cons j items =>
    cases items with
    | nil =>
      rw [renderItems, renderItems, String.intercalate_singleton]
      exact .lastItem (spells_render j)
    | cons j' items =>
      rw [renderItems, toList_intercalate_cons _ (by simp [renderItems])]
      exact .item (spells_render j) (spells_renderItems (j' :: items))

theorem spells_renderMembers (members : List (String × Json)) :
    Spells (.members members) (",".intercalate (renderMembers members)).toList := by
  cases members with
  | nil => exact .noMembers
  | cons m members =>
    obtain ⟨name, j⟩ := m
    have hName : Spells (.name name) (quote name).toList := .name (spellsText_quote name)
    have hEntry : (quote name ++ ":" ++ render j).toList =
        (quote name).toList ++ ':' :: (render j).toList := by
      rw [String.toList_append, String.toList_append, List.append_assoc]
      rfl
    cases members with
    | nil =>
      rw [renderMembers, renderMembers, String.intercalate_singleton, hEntry]
      exact .lastMember hName (spells_render j)
    | cons m members =>
      rw [renderMembers, toList_intercalate_cons _ (by simp [renderMembers]), hEntry]
      exact .member hName (spells_render j) (spells_renderMembers (m :: members))

end

theorem isDocument_render (j : Json) : IsDocument (render j) j :=
  spells_render j

end EdgeApi.Json
