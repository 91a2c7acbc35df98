import EdgeApi.Proofs.Uri.Segments
import EdgeApi.Uri.Locator
import Mathlib.Data.List.Infix
import Mathlib.Data.List.TakeWhile

/-!
# Resolution of locators

A path that is put after a base locator comes through parsing as it is, whatever the base has before
it, save that its last segment may be one of dots.
-/

set_option autoImplicit false

namespace EdgeApi.Uri

open Text.Utf8 (encodeChar)

def isPathText (c : Char) : Bool :=
  isSegmentChar c || c == '/'

theorem isPathText_of_isSegmentChar {c : Char} (h : isSegmentChar c = true) :
    isPathText c = true := by
  rw [isPathText, h, Bool.true_or]

theorem toNat_lt_of_isPathText {c : Char} (h : isPathText c = true) : c.toNat < 0x80 := by
  rw [isPathText, isSegmentChar, Bool.or_eq_true, Bool.or_eq_true, beq_iff_eq, beq_iff_eq] at h
  rcases h with (hWord | rfl) | rfl
  · exact toNat_lt_of_isUnreservedChar hWord
  · decide
  · decide

theorem exists_ofNat_of_isPathText {c : Char} (h : isPathText c = true) :
    ∃ n < 0x80, c = Char.ofNat n :=
  ⟨c.toNat, toNat_lt_of_isPathText h, (Char.ofNat_toNat c).symm⟩

namespace Locator

/-- What characters of paths mean to a parser: nothing. -/
theorem isPathText_spec {c : Char} (h : isPathText c = true) :
    0x20 < c.toNat ∧ c ∉ ['\t', '\n', '\r', ':', '\\', '?', '#'] ∧
      keepsInPath (UInt8.ofNat c.toNat) = true := by
  have hAll : ∀ n < 0x80, isPathText (Char.ofNat n) = true →
      0x20 < (Char.ofNat n).toNat ∧
        Char.ofNat n ∉ ['\t', '\n', '\r', ':', '\\', '?', '#'] ∧
          keepsInPath (UInt8.ofNat (Char.ofNat n).toNat) = true := by
    decide +kernel
  obtain ⟨n, hn, rfl⟩ := exists_ofNat_of_isPathText h
  exact hAll n hn h

/-! ## Codes -/

theorem encodeWith_append (keep : UInt8 → Bool) (before after : List Char) :
    encodeWith keep (before ++ after) = encodeWith keep before ++ encodeWith keep after := by
  simp [encodeWith, percentEncode, Text.Utf8.encode]

theorem encodeWith_of_keeps {keep : UInt8 → Bool} {cs : List Char}
    (h : ∀ c ∈ cs, c.toNat < 0x80 ∧ keep (UInt8.ofNat c.toNat) = true) :
    encodeWith keep cs = cs := by
  induction cs with
  | nil => rfl
  | cons c cs ih =>
    obtain ⟨⟨hAscii, hKeep⟩, hRest⟩ := List.forall_mem_cons.mp h
    have hByte : (UInt8.ofNat c.toNat).toNat = c.toNat := Text.Utf8.toNat_ofNat (by omega)
    have hChar : encodeWith keep [c] = [c] := by
      have hCode : encodeChar c = [UInt8.ofNat c.toNat] := if_pos hAscii
      simp [encodeWith, percentEncode, Text.Utf8.encode, hCode, hKeep, hByte]
    rw [← List.singleton_append, encodeWith_append, hChar, ih hRest]

theorem encodeWith_of_isPathText {cs : List Char} (h : ∀ c ∈ cs, isPathText c = true) :
    encodeWith keepsInPath cs = cs :=
  encodeWith_of_keeps fun c hMem =>
    ⟨toNat_lt_of_isPathText (h c hMem), (isPathText_spec (h c hMem)).2.2⟩

/-! ## Dots -/

theorem plainDots_cons {c : Char} (h : c ≠ '%') (cs : List Char) :
    plainDots (c :: cs) = c :: plainDots cs := by
  rw [plainDots.eq_def]
  split
  · rename_i hEq
    exact absurd (List.cons.inj hEq).1 h
  · rename_i hEq
    rw [(List.cons.inj hEq).1, (List.cons.inj hEq).2]
  · rename_i hEq
    cases hEq

theorem plainDots_of_not_mem {cs : List Char} (h : '%' ∉ cs) : plainDots cs = cs := by
  induction cs with
  | nil => rfl
  | cons c cs ih =>
    obtain ⟨hNe, hRest⟩ := not_or.mp (mt List.mem_cons.mpr h)
    rw [plainDots_cons (Ne.symm hNe), ih hRest]

theorem plainDots_code {high low : Char} (hHigh : high ≠ '%') (hLow : low ≠ '%')
    (h : high = '2' → ¬ (low = 'e' ∨ low = 'E')) (cs : List Char) :
    plainDots ('%' :: high :: low :: cs) = '%' :: high :: low :: plainDots cs := by
  rw [plainDots.eq_def]
  split
  · rename_i hEq
    obtain ⟨-, hRest⟩ := List.cons.inj hEq
    obtain ⟨hTwo, hRest⟩ := List.cons.inj hRest
    obtain ⟨rfl, rfl⟩ := List.cons.inj hRest
    rw [if_neg (h hTwo), hTwo]
  · rename_i hEq
    obtain ⟨rfl, rfl⟩ := List.cons.inj hEq
    rw [plainDots_cons hHigh, plainDots_cons hLow]
  · rename_i hEq
    cases hEq

theorem upperHex_spec {n : Nat} (h : n < 16) :
    upperHex n ≠ '%' ∧ (upperHex n = '2' → n = 2) ∧
      (upperHex n = 'e' ∨ upperHex n = 'E' → n = 14) := by
  revert n
  decide

/-- A code that is written for a byte is not that of a dot, which is written as it is. -/
theorem plainDots_writtenByte (b : UInt8) (cs : List Char) :
    plainDots (writtenByte b ++ cs) = writtenByte b ++ plainDots cs := by
  have hByte := b.toNat_lt
  rw [writtenByte]
  split
  · rename_i hKept
    have hPercent : Char.ofNat b.toNat ≠ '%' := by
      intro hEq
      have hKeptChar := isUnreservedChar_ofNat hKept
      rw [hEq] at hKeptChar
      cases hKeptChar
    exact plainDots_cons hPercent cs
  · rename_i hCoded
    obtain ⟨hHigh, hTwo, -⟩ := upperHex_spec (show b.toNat / 16 < 16 by omega)
    obtain ⟨hLow, -, hFourteen⟩ := upperHex_spec (show b.toNat % 16 < 16 by omega)
    refine plainDots_code hHigh hLow ?_ cs
    intro hFirst hSecond
    have hDot : b = 0x2E := by
      apply UInt8.toNat_inj.mp
      have hQuotient := hTwo hFirst
      have hRemainder := hFourteen hSecond
      change b.toNat = 46
      omega
    exact hCoded (hDot ▸ rfl)

theorem plainDots_segment (s : String) : plainDots (segment s).toList = (segment s).toList := by
  rw [toList_segment]
  induction Text.Utf8.encode s with
  | nil => rfl
  | cons b bytes ih => rw [List.flatMap_cons, plainDots_writtenByte, ih]

end Locator

theorem segment_injective {s t : String} (h : segment s = segment t) : s = t := by
  have hBytes : Text.Utf8.encode s = Text.Utf8.encode t := by
    rw [← percentDecode_segment s, h, percentDecode_segment]
  rw [← Text.Utf8.decodeLossy_encode s, hBytes, Text.Utf8.decodeLossy_encode]

namespace Locator

theorem isDot_segment_iff {s : String} : isDot (segment s).toList = true ↔ s = "." := by
  rw [isDot, plainDots_segment, beq_iff_eq]
  constructor
  · intro h
    apply segment_injective
    exact String.toList_inj.mp (h.trans (by decide))
  · rintro rfl
    decide

theorem isDoubleDot_segment_iff {s : String} :
    isDoubleDot (segment s).toList = true ↔ s = ".." := by
  rw [isDoubleDot, plainDots_segment, beq_iff_eq]
  constructor
  · intro h
    apply segment_injective
    exact String.toList_inj.mp (h.trans (by decide))
  · rintro rfl
    decide

/-! ## Resolution -/

theorem resolve_cons (done : List (List Char)) (s : List Char) {rest : List (List Char)}
    (h : rest ≠ []) :
    resolve done (s :: rest) =
      if isDoubleDot s then resolve (pop done) rest
      else if isDot s then resolve done rest
      else resolve (s :: done) rest := by
  cases rest with
  | nil => exact absurd rfl h
  | cons next rest => rfl

/-- The segments that come last are resolved after those before. -/
theorem exists_resolve_append (done before : List (List Char)) {after : List (List Char)}
    (h : after ≠ []) : ∃ done', resolve done (before ++ after) = resolve done' after := by
  induction before generalizing done with
  | nil => exact ⟨done, rfl⟩
  | cons s before ih =>
    rw [List.cons_append, resolve_cons done s (by simp [h])]
    split
    · exact ih _
    · split
      · exact ih _
      · exact ih _

theorem resolve_ne_nil (done : List (List Char)) {segments : List (List Char)}
    (h : segments ≠ []) : resolve done segments ≠ [] := by
  rw [← List.dropLast_append_getLast h]
  obtain ⟨done', hDone⟩ :=
    exists_resolve_append done segments.dropLast (List.cons_ne_nil (segments.getLast h) [])
  rw [hDone, resolve]
  split
  · simp
  · split <;> simp

theorem resolve_append {front : List (List Char)} (done : List (List Char)) (last : List Char)
    (h : ∀ s ∈ front, isDot s = false ∧ isDoubleDot s = false) :
    resolve done (front ++ [last]) = resolve (front.reverse ++ done) [last] := by
  induction front generalizing done with
  | nil => rfl
  | cons s front ih =>
    obtain ⟨⟨hDot, hDouble⟩, hFront⟩ := List.forall_mem_cons.mp h
    rw [List.cons_append, resolve_cons done s (by simp), hDot, hDouble]
    simp [ih _ hFront]

/-! ## The end of a path -/

def slashed (segments : List (List Char)) : List Char :=
  segments.flatMap ('/' :: ·)

theorem head?_slashed {segments : List (List Char)} (h : segments ≠ []) :
    (slashed segments).head? = some '/' := by
  obtain ⟨s, rest, rfl⟩ := List.exists_cons_of_ne_nil h
  rfl

theorem head?_renderPath (special : Bool) (cs : List Char) :
    (renderPath special cs).toList.head? = some '/' := by
  rw [renderPath, String.toList_ofList]
  refine head?_slashed (resolve_ne_nil [] ?_)
  simp [Host.splitAll_ne_nil]

theorem splitAll_append_slashed (before : List Char) {segments : List (List Char)}
    (h : ∀ s ∈ segments, '/' ∉ s) :
    Host.splitAll '/' (before ++ slashed segments) = Host.splitAll '/' before ++ segments := by
  induction segments generalizing before with
  | nil => simp [slashed]
  | cons s segments ih =>
    obtain ⟨hFirst, hRest⟩ := List.forall_mem_cons.mp h
    have hNext := ih (before ++ '/' :: s) hRest
    rw [Host.splitAll_append_cons, Host.splitAll_of_not_mem hFirst] at hNext
    simpa [slashed] using hNext

/-- Segments that stand at the end of a path, written as segments. Only the last may be of dots. -/
structure Ending where
  front : List (List Char)
  last : List Char
  front_ne_nil : front ≠ []
  written : ∀ s ∈ front ++ [last], ∀ c ∈ s, isSegmentChar c = true
  plain : ∀ s ∈ front, isDot s = false ∧ isDoubleDot s = false

namespace Ending

def segments (e : Ending) : List (List Char) :=
  e.front ++ [e.last]

def resolved (e : Ending) : List (List Char) :=
  if isDoubleDot e.last then (pop e.front.reverse).reverse ++ [[]]
  else if isDot e.last then e.front ++ [[]]
  else e.segments

theorem resolved_ne_nil (e : Ending) : e.resolved ≠ [] := by
  rw [resolved, segments]
  split
  · simp
  · split <;> simp

theorem exists_resolved_of_dots {e : Ending} (h : isDot e.last = true ∨ isDoubleDot e.last = true) :
    ∃ front, e.resolved = front ++ [[]] := by
  rw [resolved]
  rcases hDouble : isDoubleDot e.last with _ | _
  · rw [hDouble] at h
    exact ⟨e.front, by simp [h.resolve_right Bool.false_ne_true]⟩
  · exact ⟨_, rfl⟩

theorem resolved_of_no_dots {e : Ending} (hDot : isDot e.last = false)
    (hDouble : isDoubleDot e.last = false) : e.resolved = e.segments := by
  rw [resolved, hDouble, hDot]
  rfl

theorem resolve_segments (e : Ending) (done : List (List Char)) :
    resolve done e.segments = done.reverse ++ e.resolved := by
  have hPop : pop (e.front.reverse ++ done) = pop e.front.reverse ++ done := by
    obtain ⟨s, rest, hFront⟩ := List.exists_cons_of_ne_nil
      (mt List.reverse_eq_nil_iff.mp e.front_ne_nil)
    rw [hFront, List.cons_append, pop, pop]
    split <;> rfl
  rw [segments, resolve_append done e.last e.plain, resolve, resolved, hPop]
  split
  · simp
  · split
    · simp
    · simp [segments]

theorem not_mem_of_mem_segments (e : Ending) {mark : Char} (hMark : isSegmentChar mark = false)
    {s : List Char} (h : s ∈ e.segments) : mark ∉ s := by
  intro hMem
  rw [e.written s h mark hMem] at hMark
  cases hMark

theorem isPathText_of_mem_slashed (e : Ending) :
    ∀ c ∈ slashed e.segments, isPathText c = true := by
  intro c hMem
  obtain ⟨s, hSegment, hChar⟩ := List.mem_flatMap.mp hMem
  rcases List.mem_cons.mp hChar with rfl | hChar
  · rfl
  · exact isPathText_of_isSegmentChar (e.written s hSegment c hChar)

theorem encode_segments (e : Ending) : e.segments.map (encodeWith keepsInPath) = e.segments := by
  refine (List.map_congr_left ?_).trans (List.map_id _)
  intro s hMem
  exact encodeWith_of_isPathText fun c hChar =>
    isPathText_of_isSegmentChar (e.written s hMem c hChar)

/-- The end of a path keeps its place, whatever stands before it. -/
theorem exists_renderPath (e : Ending) (special : Bool) (before : List Char) :
    ∃ front, (renderPath special (before ++ slashed e.segments)).toList =
      slashed front ++ slashed e.resolved := by
  have hBackslash : (slashed e.segments).map (fun c => if c = '\\' then '/' else c) =
      slashed e.segments := by
    refine (List.map_congr_left ?_).trans (List.map_id _)
    intro c hMem
    have hPlain := (isPathText_spec (e.isPathText_of_mem_slashed c hMem)).2.1
    exact if_neg fun hEq => hPlain (by simp [hEq])
  obtain ⟨before', hSlashed⟩ : ∃ before',
      (if special then
        (before ++ slashed e.segments).map fun c => if c = '\\' then '/' else c
      else before ++ slashed e.segments) = before' ++ slashed e.segments := by
    cases special with
    | false => exact ⟨before, rfl⟩
    | true => exact ⟨_, (List.map_append).trans (congrArg _ hBackslash)⟩
  have hSlash : ∀ s ∈ e.segments, '/' ∉ s := fun s => e.not_mem_of_mem_segments rfl
  have hFilled : e.segments ≠ [] := by simp [segments]
  obtain ⟨done, hDone⟩ := exists_resolve_append []
    ((Host.splitAll '/' before').map (encodeWith keepsInPath)) hFilled
  refine ⟨done.reverse, ?_⟩
  rw [renderPath, hSlashed, String.toList_ofList, splitAll_append_slashed before' hSlash,
    List.map_append, e.encode_segments, hDone, e.resolve_segments, List.flatMap_append]
  rfl

end Ending

/-! ## Parsing -/

section Suffixes

variable {c : Char} {rest cs : List Char}

theorem suffix_dropWhile {p : Char → Bool} (hc : p c = false) (h : c :: rest <:+ cs) :
    c :: rest <:+ cs.dropWhile p := by
  obtain ⟨before, rfl⟩ := h
  rw [List.dropWhile_append]
  split
  · rw [List.dropWhile_cons_of_neg (by simp [hc])]
  · exact List.suffix_append _ _

theorem drop_length_takeWhile (p : Char → Bool) (cs : List Char) :
    cs.drop (cs.takeWhile p).length = cs.dropWhile p := by
  have hSplit := @List.drop_left _ (cs.takeWhile p) (cs.dropWhile p)
  rwa [List.takeWhile_append_dropWhile] at hSplit

theorem suffix_drop_one (h : c :: rest <:+ cs) : rest <:+ cs.drop 1 := by
  obtain ⟨_ | ⟨_, before⟩, rfl⟩ := h
  · exact List.suffix_refl rest
  · exact ⟨before ++ [c], by simp⟩

theorem suffix_of_suffix_cons {first : Char} (hNe : c ≠ first) (h : c :: rest <:+ first :: cs) :
    c :: rest <:+ cs := by
  rcases List.suffix_cons_iff.mp h with hEq | hSuffix
  · exact absurd (List.cons.inj hEq).1 hNe
  · exact hSuffix

end Suffixes

/-- A path that is put after a base: two segments at least before its end. -/
structure Appended where
  head : Char
  first : List Char
  second : List Char
  ending : Ending
  written : ∀ s ∈ [head :: first, second], ∀ c ∈ s, isSegmentChar c = true

namespace Appended

def afterSecond (a : Appended) : List Char :=
  a.second ++ slashed a.ending.segments

def afterFirst (a : Appended) : List Char :=
  a.head :: (a.first ++ '/' :: a.afterSecond)

def text (a : Appended) : List Char :=
  '/' :: a.afterFirst

variable {a : Appended}

theorem isPathText_of_mem_text : ∀ c ∈ a.text, isPathText c = true := by
  have hFirst := a.written _ List.mem_cons_self
  have hSecond := a.written a.second (by simp)
  intro c hMem
  simp only [text, afterFirst, afterSecond, List.mem_cons, List.mem_append] at hMem
  rcases hMem with rfl | rfl | hMem | rfl | hMem | hMem
  · rfl
  · exact isPathText_of_isSegmentChar (hFirst _ List.mem_cons_self)
  · exact isPathText_of_isSegmentChar (hFirst _ (List.mem_cons_of_mem _ hMem))
  · rfl
  · exact isPathText_of_isSegmentChar (hSecond _ hMem)
  · exact a.ending.isPathText_of_mem_slashed c hMem

theorem head_ne {mark : Char} (hMark : isSegmentChar mark = false) : a.head ≠ mark := by
  intro hEq
  have hHead := a.written _ List.mem_cons_self _ List.mem_cons_self
  rw [hEq, hMark] at hHead
  cases hHead

theorem afterFirst_suffix : a.afterFirst <:+ a.text :=
  List.suffix_cons _ _

theorem afterSecond_suffix : '/' :: a.afterSecond <:+ a.afterFirst :=
  (List.suffix_append _ _).trans (List.suffix_cons _ _)

/-- The end of the path is still there after a part of the text. -/
theorem exists_append_ending {cs : List Char} (h : a.afterSecond <:+ cs) :
    ∃ before, cs = before ++ slashed a.ending.segments := by
  obtain ⟨before, rfl⟩ := h
  exact ⟨before ++ a.second, by simp [afterSecond]⟩

end Appended

def keepsInOpaque (b : UInt8) : Bool :=
  0x1F < b && b < 0x7F

theorem exists_lead {c : Char} (h : 0x80 ≤ c.toNat) :
    ∃ b bytes, encodeChar c = b :: bytes ∧ 0x80 ≤ b.toNat := by
  have hValid : c.toNat < 0xD800 ∨ 0xDFFF < c.toNat ∧ c.toNat < 0x110000 := c.valid
  have hLead {n : Nat} (hLow : 0x80 ≤ n) (hHigh : n < 256) : 0x80 ≤ (UInt8.ofNat n).toNat := by
    rw [Text.Utf8.toNat_ofNat hHigh]
    exact hLow
  unfold encodeChar
  dsimp only
  rw [if_neg (Nat.not_lt.mpr h)]
  split
  · exact ⟨_, _, rfl, hLead (by omega) (by omega)⟩
  · split
    · exact ⟨_, _, rfl, hLead (by omega) (by omega)⟩
    · exact ⟨_, _, rfl, hLead (by omega) (by omega)⟩

theorem exists_encodeWith_opaque {c : Char} (h : c ≠ '/') :
    ∃ first rest, encodeWith keepsInOpaque [c] = first :: rest ∧ first ≠ '/' := by
  have hCode (b : UInt8) (bytes : List UInt8) (hCoded : keepsInOpaque b = false) :
      ∃ rest, percentEncode keepsInOpaque (b :: bytes) = '%' :: rest := by
    rw [percentEncode, List.flatMap_cons, hCoded]
    exact ⟨_, rfl⟩
  have hBytes : Text.Utf8.encode (String.ofList [c]) = encodeChar c := by
    simp [Text.Utf8.encode]
  rw [encodeWith, hBytes]
  by_cases hAscii : c.toNat < 0x80
  · have hChar : encodeChar c = [UInt8.ofNat c.toNat] := if_pos hAscii
    have hByte : (UInt8.ofNat c.toNat).toNat = c.toNat := Text.Utf8.toNat_ofNat (by omega)
    rw [hChar]
    rcases hKept : keepsInOpaque (UInt8.ofNat c.toNat) with _ | _
    · obtain ⟨rest, hRest⟩ := hCode _ [] hKept
      exact ⟨'%', rest, hRest, by decide⟩
    · refine ⟨c, [], ?_, h⟩
      simp [percentEncode, hKept, hByte]
  · obtain ⟨b, bytes, hChar, hLarge⟩ := exists_lead (Nat.not_lt.mp hAscii)
    have hCoded : keepsInOpaque b = false := by
      have hNot : ¬ b < 0x7F := by
        rw [UInt8.lt_iff_toNat_lt]
        exact Nat.not_lt.mpr (Nat.le_trans (by decide) hLarge)
      simp [keepsInOpaque, hNot]
    obtain ⟨rest, hRest⟩ := hCode b bytes hCoded
    exact ⟨'%', rest, by rw [hChar, hRest], by decide⟩

/-- A path without a hierarchy keeps its end as it is, and still does not start with a slash. -/
theorem Appended.exists_encode_opaque (a : Appended) {before : List Char}
    (h : ∀ tail, before ++ a.text = '/' :: tail → False) :
    ∃ first rest, first ≠ '/' ∧
      encodeWith keepsInOpaque (before ++ a.text) =
        first :: rest ++ slashed a.ending.segments := by
  have hKept : encodeWith keepsInOpaque a.text = a.text := by
    apply encodeWith_of_keeps
    intro c hMem
    obtain ⟨-, -, hPath⟩ := isPathText_spec (isPathText_of_mem_text c hMem)
    refine ⟨toNat_lt_of_isPathText (isPathText_of_mem_text c hMem), ?_⟩
    simp only [keepsInPath, Bool.and_eq_true, decide_eq_true_eq, UInt8.lt_iff_toNat_lt,
      UInt8.reduceToNat] at hPath
    simp only [keepsInOpaque, Bool.and_eq_true, decide_eq_true_eq, UInt8.lt_iff_toNat_lt,
      UInt8.reduceToNat]
    omega
  obtain ⟨lead, hLead⟩ := exists_append_ending
    ((List.suffix_cons _ _).trans (afterSecond_suffix.trans a.afterFirst_suffix))
  obtain _ | ⟨c, before⟩ := before
  · exact (h a.afterFirst rfl).elim
  · have hFirst : c ≠ '/' := by
      rintro rfl
      exact h (before ++ a.text) rfl
    obtain ⟨first, rest, hEncoded, hNe⟩ := exists_encodeWith_opaque hFirst
    refine ⟨first, rest ++ encodeWith keepsInOpaque before ++ lead, hNe, ?_⟩
    rw [← List.singleton_append, encodeWith_append, encodeWith_append, hKept, hEncoded, hLead]
    simp

def stripped (base : String) : List Char :=
  (base.toList.dropWhile fun c => decide (c.toNat ≤ 0x20)).filter fun c =>
    c != '\t' && c != '\n' && c != '\r'

theorem dropWhile_reverse {p : Char → Bool} {cs : List Char}
    (h : ∀ c, cs.getLast? = some c → p c = false) : cs.reverse.dropWhile p = cs.reverse := by
  rcases hReverse : cs.reverse with _ | ⟨last, rest⟩
  · rfl
  · have hLast : p last = false := by
      apply h
      rw [List.getLast?_eq_head?_reverse, hReverse]
      rfl
    rw [List.dropWhile_cons_of_neg (by simp [hLast])]

theorem clean_of_solid {base : String}
    (hEnd : ∀ c, base.toList.getLast? = some c → 0x20 < c.toNat) : clean base = stripped base := by
  have hBack : (base.toList.dropWhile fun c => decide (c.toNat ≤ 0x20)).reverse.dropWhile
      (fun c => decide (c.toNat ≤ 0x20)) =
        (base.toList.dropWhile fun c => decide (c.toNat ≤ 0x20)).reverse := by
    apply dropWhile_reverse
    intro c hLast
    obtain ⟨before, hSplit⟩ := List.dropWhile_suffix (l := base.toList)
      fun c => decide (c.toNat ≤ 0x20)
    have hBase : base.toList.getLast? = some c := by
      rw [← hSplit, List.getLast?_append, hLast]
      rfl
    exact decide_eq_false (Nat.not_le.mpr (hEnd c hBase))
  rw [clean, hBack, List.reverse_reverse, stripped]

theorem clean_append (base : String) (a : Appended) :
    clean (base ++ String.ofList a.text) = stripped base ++ a.text := by
  have hEdge : ∀ c ∈ a.text, decide (c.toNat ≤ 0x20) = false := fun c hMem =>
    decide_eq_false (Nat.not_le.mpr (isPathText_spec (Appended.isPathText_of_mem_text c hMem)).1)
  have hFront : (base.toList ++ a.text).dropWhile (fun c => decide (c.toNat ≤ 0x20)) =
      base.toList.dropWhile (fun c => decide (c.toNat ≤ 0x20)) ++ a.text := by
    rw [List.dropWhile_append]
    split
    · rename_i hEmpty
      rw [List.isEmpty_iff.mp hEmpty, List.nil_append, Appended.text,
        List.dropWhile_cons_of_neg (by decide)]
    · rfl
  have hBack (before : List Char) :
      (before ++ a.text).reverse.dropWhile (fun c => decide (c.toNat ≤ 0x20)) =
        (before ++ a.text).reverse := by
    apply dropWhile_reverse
    intro c hLast
    rw [List.getLast?_append_of_ne_nil _ (by simp [Appended.text])] at hLast
    exact hEdge c (List.mem_of_getLast? hLast)
  have hKept : a.text.filter (fun c => c != '\t' && c != '\n' && c != '\r') = a.text := by
    rw [List.filter_eq_self]
    intro c hMem
    have hPlain := (isPathText_spec (Appended.isPathText_of_mem_text c hMem)).2.1
    simp only [List.mem_cons, not_or] at hPlain
    simp [hPlain]
  rw [clean, String.toList_append, String.toList_ofList, hFront, hBack, List.reverse_reverse,
    List.filter_append, hKept, stripped]

def isSchemeChar (c : Char) : Bool :=
  c.isAlphanum || c == '+' || c == '-' || c == '.'

theorem splitScheme_cons (c : Char) (cs : List Char) :
    splitScheme (c :: cs) =
      if c.isAlpha then
        match (c :: cs).dropWhile isSchemeChar with
        | ':' :: rest =>
          some (String.ofList (((c :: cs).takeWhile isSchemeChar).map Char.toLower), rest)
        | _ => none
      else none :=
  rfl

/-- A scheme is what stands before the first colon, if it is a word. -/
theorem splitScheme_eq_some_iff {cs rest : List Char} {scheme : String} :
    splitScheme cs = some (scheme, rest) ↔
      ∃ name : List Char, name.head?.any Char.isAlpha = true ∧ (∀ c ∈ name, isSchemeChar c = true) ∧
        cs = name ++ ':' :: rest ∧ scheme = String.ofList (name.map Char.toLower) := by
  have hColon : isSchemeChar ':' = false := rfl
  constructor
  · intro h
    obtain _ | ⟨c, tail⟩ := cs
    · cases h
    · rw [splitScheme_cons] at h
      split at h
      · rename_i hAlpha
        split at h
        · rename_i rest' hDrop
          obtain ⟨rfl, rfl⟩ := Prod.mk.inj (Option.some.inj h)
          have hHead : isSchemeChar c = true := by simp [isSchemeChar, Char.isAlphanum, hAlpha]
          refine ⟨(c :: tail).takeWhile isSchemeChar, ?_, ?_, ?_, rfl⟩
          · rw [List.takeWhile_cons_of_pos hHead]
            exact hAlpha
          · exact List.all_eq_true.mp List.all_takeWhile
          · rw [← hDrop, List.takeWhile_append_dropWhile]
        · cases h
      · cases h
  · rintro ⟨name, hAlpha, hName, rfl, rfl⟩
    obtain _ | ⟨c, name⟩ := name
    · cases hAlpha
    · have hLetter : c.isAlpha = true := hAlpha
      have hDrop : (c :: name ++ ':' :: rest).dropWhile isSchemeChar = ':' :: rest := by
        rw [List.dropWhile_append_of_pos hName, List.dropWhile_cons_of_neg (by simp [hColon])]
      have hTake : (c :: name ++ ':' :: rest).takeWhile isSchemeChar = c :: name := by
        rw [List.takeWhile_append_of_pos hName, List.takeWhile_cons_of_neg (by simp [hColon]),
          List.append_nil]
      rw [List.cons_append] at hDrop hTake ⊢
      rw [splitScheme_cons, if_pos hLetter, hDrop, hTake]
      rfl

theorem splitScheme_append {base rest : List Char} {scheme : String} {a : Appended}
    (h : splitScheme (base ++ a.text) = some (scheme, rest)) :
    ∃ more, splitScheme base = some (scheme, more) ∧ rest = more ++ a.text := by
  obtain ⟨name, hAlpha, hName, hSplit, hScheme⟩ := splitScheme_eq_some_iff.mp h
  rcases List.append_eq_append_iff.mp hSplit with ⟨start, hStart, hText⟩ | ⟨more, hMore, hRest⟩
  · have hColon : ':' ∈ a.text := by
      rw [hText]
      simp
    have hPlain := (isPathText_spec (Appended.isPathText_of_mem_text ':' hColon)).2.1
    exact absurd (by simp) hPlain
  · obtain _ | ⟨mark, more⟩ := more
    · cases (List.cons.inj hRest).1
    · obtain ⟨hMark, hText⟩ := List.cons.inj hRest
      rw [← hMark] at hMore
      exact ⟨more, splitScheme_eq_some_iff.mpr ⟨name, hAlpha, hName, hMore, hScheme⟩, hText⟩

section Branches

variable {a : Appended} {cs : List Char} {u : Locator}

theorem parseAfterSlashes_eq (scheme : String) (cs : List Char) :
    parseAfterSlashes scheme cs =
      let special := isSpecial scheme
      let rest := cs.dropWhile fun c => !endsAuthority special c
      let pathPart := rest.takeWhile isPathChar
      (parseAuthority special rest.isEmpty (cs.takeWhile fun c => !endsAuthority special c)).map
        fun found => {
          scheme, host := found.1
          port := found.2.filter fun p => defaultPort? scheme != some p
          path := if special ∨ pathPart ≠ [] then renderPath special (pathPart.drop 1) else ""
          query := (parseTail special (rest.dropWhile isPathChar)).1
          fragment := (parseTail special (rest.dropWhile isPathChar)).2 } := by
  unfold parseAfterSlashes
  dsimp only
  rcases parseAuthority (isSpecial scheme)
    (cs.dropWhile fun c => !endsAuthority (isSpecial scheme) c).isEmpty
    (cs.takeWhile fun c => !endsAuthority (isSpecial scheme) c) with fault | found <;> rfl

theorem exists_of_parseAfterSlashes {scheme : String} (h : parseAfterSlashes scheme cs = .ok u) :
    u.scheme = scheme ∧
      u.path = (let pathPart :=
          (cs.dropWhile fun c => !endsAuthority (isSpecial scheme) c).takeWhile isPathChar
        if isSpecial scheme ∨ pathPart ≠ [] then renderPath (isSpecial scheme) (pathPart.drop 1)
        else "") ∧
      ∃ found, parseAuthority (isSpecial scheme)
        (cs.dropWhile fun c => !endsAuthority (isSpecial scheme) c).isEmpty
        (cs.takeWhile fun c => !endsAuthority (isSpecial scheme) c) = .ok found := by
  rw [parseAfterSlashes_eq] at h
  dsimp only at h
  rcases hAuthority : parseAuthority (isSpecial scheme)
      (cs.dropWhile fun c => !endsAuthority (isSpecial scheme) c).isEmpty
      (cs.takeWhile fun c => !endsAuthority (isSpecial scheme) c) with fault | found
  · rw [hAuthority] at h
    cases h
  · rw [hAuthority] at h
    cases h
    exact ⟨rfl, rfl, found, rfl⟩

theorem path_of_parseAfterSlashes {scheme : String} (hAppended : a.afterFirst <:+ cs)
    (hPath : ∀ c ∈ cs, isPathChar c = true) (h : parseAfterSlashes scheme cs = .ok u) :
    ∃ before, u.path =
      renderPath (isSpecial scheme) (before ++ slashed a.ending.segments) := by
  have hRest : '/' :: a.afterSecond <:+ cs.dropWhile fun c => !endsAuthority (isSpecial scheme) c :=
    suffix_dropWhile rfl (Appended.afterSecond_suffix.trans hAppended)
  have hKept : (cs.dropWhile fun c => !endsAuthority (isSpecial scheme) c).takeWhile isPathChar =
      cs.dropWhile fun c => !endsAuthority (isSpecial scheme) c :=
    List.takeWhile_eq_self_iff.mpr fun c hMem => hPath c ((List.dropWhile_suffix _).mem hMem)
  have hFilled : (cs.dropWhile fun c => !endsAuthority (isSpecial scheme) c) ≠ [] := by
    intro hNil
    rw [hNil] at hRest
    cases List.suffix_nil.mp hRest
  obtain ⟨before, hBefore⟩ := Appended.exists_append_ending (suffix_drop_one hRest)
  obtain ⟨-, hRendered, -⟩ := exists_of_parseAfterSlashes h
  dsimp only at hRendered
  rw [hKept, hBefore, if_pos (.inr hFilled)] at hRendered
  exact ⟨before, hRendered⟩

theorem exists_afterSlash {rest : List Char} (hRest : '/' :: a.afterSecond <:+ rest)
    (hPath : ∀ c ∈ rest, isPathChar c = true) :
    ∃ before, renderPath true
      (match rest.takeWhile isPathChar with
        | c :: tail => if c == '/' || c == '\\' then tail else rest.takeWhile isPathChar
        | [] => []) = renderPath true (before ++ slashed a.ending.segments) := by
  rw [List.takeWhile_eq_self_iff.mpr hPath]
  obtain _ | ⟨c, tail⟩ := rest
  · cases List.suffix_nil.mp hRest
  · dsimp only
    split
    · obtain ⟨before, hBefore⟩ := Appended.exists_append_ending (suffix_drop_one hRest)
      rw [List.drop_succ_cons, List.drop_zero] at hBefore
      exact ⟨before, by rw [hBefore]⟩
    · obtain ⟨before, hBefore⟩ :=
        Appended.exists_append_ending ((List.suffix_cons _ _).trans hRest)
      exact ⟨before, by rw [hBefore]⟩

theorem path_of_parseFile (hAppended : a.text <:+ cs)
    (hPath : ∀ c ∈ cs, isPathChar c = true) (h : parseFile cs = .ok u) :
    ∃ before, u.path = renderPath true (before ++ slashed a.ending.segments) := by
  have hFirst : a.afterFirst <:+ cs := Appended.afterFirst_suffix.trans hAppended
  unfold parseFile at h
  dsimp only at h
  split at h
  · rename_i first second rest
    split at h
    · rename_i hSlashes
      have hHead {c : Char} (hSlash : c = '/' ∨ c = '\\') : a.head ≠ c := by
        rcases hSlash with rfl | rfl
        · exact Appended.head_ne rfl
        · exact Appended.head_ne rfl
      have hRest : '/' :: a.afterSecond <:+ rest := by
        simp only [Bool.and_eq_true, Bool.or_eq_true, beq_iff_eq] at hSlashes
        exact Appended.afterSecond_suffix.trans
          (suffix_of_suffix_cons (hHead hSlashes.2)
            (suffix_of_suffix_cons (hHead hSlashes.1) hFirst))
      have hPathRest : ∀ c ∈ rest, isPathChar c = true := fun c hMem =>
        hPath c (List.mem_cons_of_mem _ (List.mem_cons_of_mem _ hMem))
      split at h
      · cases h
        exact exists_afterSlash hRest hPathRest
      · have hDrop := drop_length_takeWhile (fun c => !endsAuthority true c) rest
        rcases hHost : Host.parse (rest.takeWhile fun c => !endsAuthority true c) with fault | host
        · rw [hHost] at h
          cases h
        · rw [hHost] at h
          cases h
          dsimp only
          rw [hDrop]
          exact exists_afterSlash (suffix_dropWhile rfl hRest) fun c hMem =>
            hPathRest c ((List.dropWhile_suffix _).mem hMem)
    · cases h
      exact exists_afterSlash (Appended.afterSecond_suffix.trans hFirst) hPath
  · cases h
    exact exists_afterSlash (Appended.afterSecond_suffix.trans hFirst) hPath

theorem mem_of_mem_stripped {base : String} {c : Char} (h : c ∈ stripped base) :
    c ∈ base.toList :=
  (List.dropWhile_suffix _).mem (List.mem_of_mem_filter h)

theorem isPathChar_of_splitScheme {base scheme : String} {more : List Char}
    (hQuery : '?' ∉ base.toList) (hFragment : '#' ∉ base.toList)
    (h : splitScheme (stripped base) = some (scheme, more)) :
    ∀ c ∈ more ++ a.text, isPathChar c = true := by
  intro c hMem
  rcases List.mem_append.mp hMem with hBase | hText
  · obtain ⟨name, -, -, hStripped, -⟩ := splitScheme_eq_some_iff.mp h
    have hGiven : c ∈ base.toList := mem_of_mem_stripped (by simp [hStripped, hBase])
    have hMark : c ≠ '?' := ne_of_mem_of_not_mem hGiven hQuery
    have hHash : c ≠ '#' := ne_of_mem_of_not_mem hGiven hFragment
    simp [isPathChar, hMark, hHash]
  · have hPlain := (isPathText_spec (Appended.isPathText_of_mem_text c hText)).2.1
    simp only [List.mem_cons, not_or] at hPlain
    simp [isPathChar, hPlain]

theorem path_without_authority {before : List Char}
    (hPath : ∀ c ∈ before ++ a.text, isPathChar c = true) {path : String}
    (h : path = match (before ++ a.text).takeWhile isPathChar with
      | '/' :: tail => renderPath false tail
      | other => String.ofList (encodeWith keepsInOpaque other)) :
    (∃ front, path.toList = slashed front ++ slashed a.ending.resolved) ∨
      ∃ first before, first ≠ '/' ∧
        path.toList = first :: before ++ slashed a.ending.segments := by
  rw [List.takeWhile_eq_self_iff.mpr hPath] at h
  split at h
  · rename_i tail hSlash
    have hText : a.text <:+ '/' :: tail := hSlash ▸ List.suffix_append before a.text
    have hSecond : '/' :: a.afterSecond <:+ tail :=
      Appended.afterSecond_suffix.trans (suffix_drop_one hText)
    obtain ⟨lead, hLead⟩ :=
      Appended.exists_append_ending ((List.suffix_cons _ _).trans hSecond)
    rw [h, hLead]
    exact .inl (a.ending.exists_renderPath false lead)
  · rename_i hOther
    rw [h, String.toList_ofList]
    exact .inr (a.exists_encode_opaque hOther)

/-- The end of the path comes through parsing resolved, or as it is if the base has no hierarchy. -/
theorem path_of_parse {base : String} (hQuery : '?' ∉ base.toList) (hFragment : '#' ∉ base.toList)
    (h : parse (base ++ String.ofList a.text) = .ok u) :
    (∃ front, u.path.toList = slashed front ++ slashed a.ending.resolved) ∨
      ∃ first before, first ≠ '/' ∧
        u.path.toList = first :: before ++ slashed a.ending.segments := by
  rw [parse, clean_append] at h
  rcases hScheme : splitScheme (stripped base ++ a.text) with _ | ⟨scheme, rest⟩
  · rw [hScheme] at h
    cases h
  · rw [hScheme] at h
    dsimp only at h
    obtain ⟨more, hMore, rfl⟩ := splitScheme_append hScheme
    have hText : a.text <:+ more ++ a.text := List.suffix_append more a.text
    have hPath : ∀ c ∈ more ++ a.text, isPathChar c = true :=
      isPathChar_of_splitScheme hQuery hFragment hMore
    split at h
    · obtain ⟨before, hBefore⟩ := path_of_parseFile hText hPath h
      rw [hBefore]
      exact .inl (a.ending.exists_renderPath true before)
    · split at h
      · have hHead : (a.head == '/' || a.head == '\\') = false := by
          simp [Appended.head_ne (a := a) (show isSegmentChar '/' = false from rfl),
            Appended.head_ne (a := a) (show isSegmentChar '\\' = false from rfl)]
        have hFirst : a.afterFirst <:+
            (more ++ a.text).dropWhile fun c => c == '/' || c == '\\' :=
          suffix_dropWhile hHead (Appended.afterFirst_suffix.trans hText)
        obtain ⟨before, hBefore⟩ := path_of_parseAfterSlashes hFirst
          (fun c hMem => hPath c ((List.dropWhile_suffix _).mem hMem)) h
        rw [hBefore]
        exact .inl (a.ending.exists_renderPath _ before)
      · split at h
        · rename_i after hSlashes
          rw [hSlashes] at hText hPath
          have hSlash : a.head ≠ '/' := Appended.head_ne rfl
          have hFirst : a.afterFirst <:+ after :=
            suffix_of_suffix_cons hSlash
              (suffix_of_suffix_cons hSlash (Appended.afterFirst_suffix.trans hText))
          obtain ⟨before, hBefore⟩ := path_of_parseAfterSlashes hFirst
            (fun c hMem => hPath c (by simp [hMem])) h
          rw [hBefore]
          exact .inl (a.ending.exists_renderPath _ before)
        · cases h
          exact path_without_authority hPath rfl

end Branches

/-! ## Existence -/

theorem parseAuthority_of_ok {atEnd : Bool} (atEnd' : Bool) {cs : List Char}
    {found : Option Host × Option Nat} (h : parseAuthority true atEnd cs = .ok found) :
    parseAuthority true atEnd' cs = .ok found := by
  unfold parseAuthority at h ⊢
  dsimp only at h ⊢
  generalize splitCredentials cs = found at h ⊢
  obtain ⟨credentials, rest⟩ := found
  dsimp only at h ⊢
  by_cases hEmpty : credentials = some [] ∧ rest = []
  · obtain ⟨rfl, rfl⟩ := hEmpty
    have hHost : true = true ∧ (splitHost false []).1 = [] := ⟨rfl, rfl⟩
    rw [if_pos hHost] at h
    split at h <;> cases h
  · have hNot (atEnd : Bool) : ¬ (credentials = some [] ∧ rest = [] ∧ ¬ atEnd = true) :=
      fun hAll => hEmpty ⟨hAll.1, hAll.2.1⟩
    rw [if_neg (hNot atEnd)] at h
    rw [if_neg (hNot atEnd')]
    exact h

theorem scheme_of_parseFile {cs : List Char} {u : Locator} (h : parseFile cs = .ok u) :
    u.scheme = "file" := by
  unfold parseFile at h
  dsimp only at h
  split at h
  · rename_i rest
    split at h
    · split at h
      · cases h
        rfl
      · rcases hHost : Host.parse (rest.takeWhile fun c => !endsAuthority true c) with fault | host
        · rw [hHost] at h
          cases h
        · rw [hHost] at h
          cases h
          rfl
    · cases h
      rfl
  · cases h
    rfl

/-- The scheme of a locator is the one that its text starts with. -/
theorem exists_splitScheme_of_parse {s : String} {u : Locator} (h : parse s = .ok u) :
    ∃ rest, splitScheme (clean s) = some (u.scheme, rest) := by
  rw [parse] at h
  rcases hScheme : splitScheme (clean s) with _ | ⟨scheme, rest⟩
  · rw [hScheme] at h
    cases h
  · rw [hScheme] at h
    dsimp only at h
    refine ⟨rest, ?_⟩
    split at h
    · rename_i hFile
      rw [scheme_of_parseFile h, hFile]
    · split at h
      · rw [(exists_of_parseAfterSlashes h).1]
      · split at h
        · rw [(exists_of_parseAfterSlashes h).1]
        · cases h
          rfl

theorem exists_parseAfterSlashes {scheme : String} {cs : List Char} {root : Locator}
    (a : Appended) (hSpecial : isSpecial scheme = true)
    (h : parseAfterSlashes scheme cs = .ok root) :
    ∃ u, parseAfterSlashes scheme (cs ++ a.text) = .ok u := by
  obtain ⟨-, -, found, hFound⟩ := exists_of_parseAfterSlashes h
  have hTake : (cs ++ a.text).takeWhile (fun c => !endsAuthority (isSpecial scheme) c) =
      cs.takeWhile fun c => !endsAuthority (isSpecial scheme) c := by
    rw [List.takeWhile_append]
    split
    · rename_i hAll
      rw [Appended.text, List.takeWhile_cons_of_neg (by simp [endsAuthority]), List.append_nil]
      exact ((List.takeWhile_prefix _).eq_of_length hAll).symm
    · rfl
  rw [parseAfterSlashes_eq]
  dsimp only
  rw [hTake]
  rw [hSpecial] at hFound ⊢
  rw [parseAuthority_of_ok _ hFound]
  exact ⟨_, rfl⟩

/-- Whatever is put after a locator of the web that does not end in a blank, there is a locator with
a hierarchy. -/
theorem exists_parse_append {base : String} {root : Locator} (a : Appended)
    (hEnd : ∀ c, base.toList.getLast? = some c → 0x20 < c.toNat) (h : parse base = .ok root)
    (hWeb : (defaultPort? root.scheme).isSome = true) :
    ∃ u, parse (base ++ String.ofList a.text) = .ok u ∧ u.path.toList.head? = some '/' := by
  have hSpecial : isSpecial root.scheme = true := by rw [isSpecial, hWeb, Bool.true_or]
  have hFile : root.scheme ≠ "file" := by
    intro hEq
    rw [hEq] at hWeb
    cases hWeb
  obtain ⟨more, hScheme⟩ := exists_splitScheme_of_parse h
  have hRoot : parseAfterSlashes root.scheme (more.dropWhile fun c => c == '/' || c == '\\') =
      .ok root := by
    rw [parse, hScheme] at h
    dsimp only at h
    rw [if_neg hFile, if_pos hSpecial] at h
    exact h
  have hFilled : more.dropWhile (fun c => c == '/' || c == '\\') ≠ [] := by
    intro hNil
    obtain ⟨-, -, found, hFound⟩ := exists_of_parseAfterSlashes hRoot
    rw [hNil, hSpecial] at hFound
    cases hFound
  have hDrop : (more ++ a.text).dropWhile (fun c => c == '/' || c == '\\') =
      more.dropWhile (fun c => c == '/' || c == '\\') ++ a.text := by
    rw [List.dropWhile_append, if_neg (by simpa using hFilled)]
  have hWhole : splitScheme (stripped base ++ a.text) = some (root.scheme, more ++ a.text) := by
    rw [clean_of_solid hEnd] at hScheme
    obtain ⟨name, hAlpha, hName, hSplit, hLower⟩ := splitScheme_eq_some_iff.mp hScheme
    exact splitScheme_eq_some_iff.mpr ⟨name, hAlpha, hName, by simp [hSplit], hLower⟩
  rw [parse, clean_append, hWhole]
  dsimp only
  rw [if_neg hFile, if_pos hSpecial, hDrop]
  obtain ⟨u, hParse⟩ := exists_parseAfterSlashes a hSpecial hRoot
  refine ⟨u, hParse, ?_⟩
  rw [(exists_of_parseAfterSlashes hParse).2.1]
  dsimp only
  rw [if_pos (.inl hSpecial)]
  exact head?_renderPath _ _

end Locator

end EdgeApi.Uri
