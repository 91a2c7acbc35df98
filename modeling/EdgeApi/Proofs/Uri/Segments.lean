import EdgeApi.Proofs.Uri.Percent
import EdgeApi.Uri.Host
import Mathlib.Data.List.Forall2

/-!
# Segments of paths

A text that is written as a segment has no mark of a path in it and is read back by percent
decoding. A path falls apart at its slashes, wherever it was put together.
-/

set_option autoImplicit false

namespace EdgeApi.Uri

open Text.Utf8 (encodeChar)

/-! ## Characters -/

def isUnreservedChar (c : Char) : Bool :=
  c.isAlphanum || "-_.~".toList.contains c

/-- The characters that a segment is written with. -/
def isSegmentChar (c : Char) : Bool :=
  isUnreservedChar c || c == '%'

theorem toNat_lt_of_isUnreserved {b : UInt8} (h : isUnreserved b = true) : b.toNat < 0x80 := by
  simp only [isUnreserved, isAlphanumeric, Bool.or_eq_true, Bool.and_eq_true, decide_eq_true_eq,
    beq_iff_eq, UInt8.le_iff_toNat_le, ← UInt8.toNat_inj, UInt8.reduceToNat] at h
  omega

theorem isUnreserved_eq {n : Nat} (h : n < 0x80) :
    isUnreserved (UInt8.ofNat n) = isUnreservedChar (Char.ofNat n) := by
  revert n
  decide +kernel

theorem isUnreservedChar_ofNat {b : UInt8} (h : isUnreserved b = true) :
    isUnreservedChar (Char.ofNat b.toNat) = true := by
  rw [← isUnreserved_eq (toNat_lt_of_isUnreserved h), UInt8.ofNat_toNat]
  exact h

theorem isUnreservedChar_upperHex {n : Nat} (h : n < 16) :
    isUnreservedChar (upperHex n) = true := by
  revert n
  decide

theorem toNat_lt_of_isAlphanum {c : Char} (h : c.isAlphanum = true) : c.toNat < 0x80 := by
  have hBelow (last : Char) (hLe : c.val ≤ last.val) (hLast : last.toNat < 0x80) :
      c.toNat < 0x80 :=
    Nat.lt_of_le_of_lt (UInt32.le_iff_toNat_le.mp hLe) hLast
  rcases (Bool.or_eq_true c.isAlpha c.isDigit).mp h with hAlpha | hDigit
  · rcases (Bool.or_eq_true c.isUpper c.isLower).mp hAlpha with hUpper | hLower
    · exact hBelow 'Z' (of_decide_eq_true hUpper).2 (by decide)
    · obtain ⟨-, hLast⟩ := (Bool.and_eq_true _ _).mp hLower
      exact hBelow 'z' (of_decide_eq_true hLast) (by decide)
  · obtain ⟨-, hLast⟩ := (Bool.and_eq_true _ _).mp hDigit
    exact hBelow '9' (of_decide_eq_true hLast) (by decide)

theorem toNat_lt_of_isUnreservedChar {c : Char} (h : isUnreservedChar c = true) :
    c.toNat < 0x80 := by
  rw [isUnreservedChar, Bool.or_eq_true] at h
  rcases h with hWord | hSign
  · exact toNat_lt_of_isAlphanum hWord
  · have hSigns : c ∈ ['-', '_', '.', '~'] := by simpa using hSign
    simp only [List.mem_cons, List.not_mem_nil, or_false] at hSigns
    rcases hSigns with rfl | rfl | rfl | rfl <;> decide

/-! ## Writing a segment -/

/-- The characters that are written for a byte. -/
def writtenByte (b : UInt8) : List Char :=
  if isUnreserved b then [Char.ofNat b.toNat] else percentByte b

theorem toList_segment (s : String) :
    (segment s).toList = (Text.Utf8.encode s).flatMap writtenByte :=
  String.toList_ofList

theorem isSegmentChar_of_mem_writtenByte {b : UInt8} {c : Char} (h : c ∈ writtenByte b) :
    isSegmentChar c = true := by
  have hByte := b.toNat_lt
  rw [writtenByte] at h
  split at h
  · rename_i hKept
    rw [List.mem_singleton.mp h, isSegmentChar, isUnreservedChar_ofNat hKept, Bool.true_or]
  · have hDigit {n : Nat} (hn : n < 16) : isSegmentChar (upperHex n) = true := by
      rw [isSegmentChar, isUnreservedChar_upperHex hn, Bool.true_or]
    simp only [percentByte, List.mem_cons, List.not_mem_nil, or_false] at h
    rcases h with rfl | rfl | rfl
    · rfl
    · exact hDigit (by omega)
    · exact hDigit (by omega)

theorem isSegmentChar_of_mem_segment {s : String} {c : Char} (h : c ∈ (segment s).toList) :
    isSegmentChar c = true := by
  rw [toList_segment] at h
  obtain ⟨b, -, hChar⟩ := List.mem_flatMap.mp h
  exact isSegmentChar_of_mem_writtenByte hChar

theorem not_mem_segment {mark : Char} (hMark : isSegmentChar mark = false) (s : String) :
    mark ∉ (segment s).toList := by
  intro hMem
  rw [isSegmentChar_of_mem_segment hMem] at hMark
  cases hMark

theorem percentDecode_writtenByte (b : UInt8) (rest : List UInt8) :
    percentDecode ((writtenByte b).flatMap encodeChar ++ rest) = b :: percentDecode rest := by
  rw [writtenByte]
  split
  · rename_i hKept
    have hPercent : b ≠ 0x25 := fun hEq => absurd (hEq ▸ hKept) (by decide)
    rw [List.flatMap_singleton, Text.Utf8.encodeChar_ofNat (toNat_lt_of_isUnreserved hKept),
      UInt8.ofNat_toNat, List.singleton_append, percentDecode_cons_of_ne hPercent]
  · rw [flatMap_percentByte]
    exact percentDecode_code b rest

theorem percentDecode_segment (s : String) :
    percentDecode (Text.Utf8.encode (segment s)) = Text.Utf8.encode s := by
  rw [Text.Utf8.encode, toList_segment]
  induction Text.Utf8.encode s with
  | nil => rfl
  | cons b bytes ih =>
    rw [List.flatMap_cons, List.flatMap_append, percentDecode_writtenByte, ih]

/-! ## Taking a path apart -/

namespace Host

variable {mark : Char} {part : List Char}

theorem splitAll_ne_nil (mark : Char) (cs : List Char) : splitAll mark cs ≠ [] := by
  cases cs with
  | nil => exact List.cons_ne_nil _ _
  | cons c cs =>
    rw [splitAll]
    split
    · exact List.cons_ne_nil _ _
    · split <;> exact List.cons_ne_nil _ _

theorem splitAll_of_not_mem (h : mark ∉ part) : splitAll mark part = [part] := by
  induction part with
  | nil => rfl
  | cons c part ih =>
    obtain ⟨hNe, hPart⟩ := not_or.mp (mt List.mem_cons.mpr h)
    rw [splitAll, if_neg (Ne.symm hNe), ih hPart]

/-- A mark is where two texts fall apart. -/
theorem splitAll_append_cons (mark : Char) (before after : List Char) :
    splitAll mark (before ++ mark :: after) = splitAll mark before ++ splitAll mark after := by
  induction before with
  | nil => simp [splitAll]
  | cons c before ih =>
    rw [List.cons_append, splitAll, splitAll]
    split
    · rw [ih, List.cons_append]
    · rw [ih]
      rcases hSplit : splitAll mark before with _ | ⟨part, parts⟩
      · exact absurd hSplit (splitAll_ne_nil mark before)
      · rfl

theorem length_splitAll (mark : Char) (cs : List Char) :
    (splitAll mark cs).length = cs.count mark + 1 := by
  induction cs with
  | nil => rfl
  | cons c cs ih =>
    rw [splitAll]
    split
    · rename_i hMark
      rw [List.length_cons, ih, hMark, List.count_cons_self]
    · rename_i hMark
      rw [List.count_cons_of_ne hMark, ← ih]
      rcases hSplit : splitAll mark cs with _ | ⟨part, parts⟩
      · exact absurd hSplit (splitAll_ne_nil mark cs)
      · rfl

theorem flatMap_splitAll (mark : Char) (cs : List Char) :
    (splitAll mark cs).flatMap (mark :: ·) = mark :: cs := by
  induction cs with
  | nil => rfl
  | cons c cs ih =>
    rw [splitAll]
    split
    · rename_i hMark
      rw [List.flatMap_cons, ih, hMark]
      rfl
    · rcases hSplit : splitAll mark cs with _ | ⟨part, parts⟩
      · exact absurd hSplit (splitAll_ne_nil mark cs)
      · rw [hSplit, List.flatMap_cons, List.cons_append] at ih
        dsimp only
        rw [List.flatMap_cons, List.cons_append, List.cons_append, (List.cons.inj ih).2]

theorem not_mem_of_mem_splitAll {cs : List Char} (h : part ∈ splitAll mark cs) : mark ∉ part := by
  induction cs generalizing part with
  | nil =>
    rw [List.mem_singleton.mp h]
    exact List.not_mem_nil
  | cons c cs ih =>
    rw [splitAll] at h
    split at h
    · rcases List.mem_cons.mp h with rfl | hMem
      · exact List.not_mem_nil
      · exact ih hMem
    · rename_i hMark
      split at h
      · rename_i first parts hSplit
        rcases List.mem_cons.mp h with rfl | hMem
        · have hFirst : mark ∉ first := ih (hSplit ▸ List.mem_cons_self)
          simp [Ne.symm hMark, hFirst]
        · exact ih (hSplit ▸ List.mem_cons_of_mem _ hMem)
      · rw [List.mem_singleton.mp h, List.mem_singleton]
        exact Ne.symm hMark

theorem mem_of_mem_splitAll {cs : List Char} {c : Char} (h : part ∈ splitAll mark cs)
    (hChar : c ∈ part) : c ∈ cs := by
  have hJoined : c ∈ (splitAll mark cs).flatMap (mark :: ·) :=
    List.mem_flatMap.mpr ⟨part, h, List.mem_cons_of_mem _ hChar⟩
  rw [flatMap_splitAll] at hJoined
  rcases List.mem_cons.mp hJoined with rfl | hMem
  · exact absurd hChar (not_mem_of_mem_splitAll h)
  · exact hMem

theorem splitAll_flatMap (mark : Char) (parts : List (List Char)) :
    splitAll mark (parts.flatMap (mark :: ·)) = [] :: parts.flatMap (splitAll mark) := by
  induction parts with
  | nil => rfl
  | cons part parts ih =>
    have hMark (cs : List Char) : splitAll mark (mark :: cs) = [] :: splitAll mark cs := if_pos rfl
    rw [List.flatMap_cons, List.flatMap_cons, List.cons_append, hMark]
    cases parts with
    | nil => simp
    | cons next parts =>
      rw [List.flatMap_cons, List.cons_append, hMark] at ih
      rw [List.flatMap_cons, List.cons_append, splitAll_append_cons, (List.cons.inj ih).2]

section Texts

variable {α : Type} {holds : α → List Char → Prop} {text : α → List Char} {items : List α}

theorem length_le_length_flatMap (mark : Char) (text : α → List Char) (items : List α) :
    items.length ≤ (items.flatMap fun item => splitAll mark (text item)).length := by
  induction items with
  | nil => exact Nat.le_refl 0
  | cons item items ih =>
    rw [List.flatMap_cons, List.length_append, length_splitAll, List.length_cons]
    omega

/-- As many parts as texts leave each text whole. -/
theorem not_mem_of_length_flatMap
    (h : (items.flatMap fun item => splitAll mark (text item)).length = items.length) :
    ∀ item ∈ items, mark ∉ text item := by
  induction items with
  | nil => exact List.forall_mem_nil _
  | cons item items ih =>
    have hLess := length_le_length_flatMap mark text items
    rw [List.flatMap_cons, List.length_append, length_splitAll, List.length_cons] at h
    rintro item' hMem
    rcases List.mem_cons.mp hMem with rfl | hMem
    · exact List.count_eq_zero.mp (by omega)
    · exact ih (by omega) item' hMem

/-- The parts of texts are what the texts stand for exactly if each text is one part. -/
theorem forall₂_flatMap_splitAll_iff :
    List.Forall₂ holds items (items.flatMap fun item => splitAll mark (text item)) ↔
      ∀ item ∈ items, mark ∉ text item ∧ holds item (text item) := by
  have hWhole (h : ∀ item ∈ items, mark ∉ text item) :
      items.flatMap (fun item => splitAll mark (text item)) = items.map text := by
    rw [List.map_eq_flatMap]
    exact List.flatMap_congr fun item hMem => splitAll_of_not_mem (h item hMem)
  constructor
  · intro h
    have hFree := not_mem_of_length_flatMap h.length_eq.symm
    rw [hWhole hFree, List.forall₂_map_right_iff, List.forall₂_same] at h
    exact fun item hMem => ⟨hFree item hMem, h item hMem⟩
  · intro h
    rw [hWhole fun item hMem => (h item hMem).1, List.forall₂_map_right_iff, List.forall₂_same]
    exact fun item hMem => (h item hMem).2

end Texts

end Host

end EdgeApi.Uri
