import EdgeApi.Json.Basic
import EdgeApi.Proofs.Number.Nearest

/-!
# The grammar of JSON texts

Which texts are documents, and of which values. A numeral stands for a whole number that is equal to
it, and for a binary number that is nearest to it. Blanks may stand around every value and name.
-/

set_option autoImplicit false

namespace EdgeApi.Json

/-! ## Numerals -/

structure IsDigits (digits : List Char) : Prop where
  filled : digits ≠ []
  all : ∀ c ∈ digits, c.isDigit = true

/-- Digits that start with a zero only if there is no other. -/
structure IsWhole (digits : List Char) : Prop extends IsDigits digits where
  leading : digits.head? = some '0' → digits = ['0']

inductive Fraction : (text digits : List Char) → Prop
  | none : Fraction [] []
  | point {digits : List Char} (h : IsDigits digits) : Fraction ('.' :: digits) digits

/-- The power of ten after an exponent mark, if there is one. -/
inductive Exponent : (text : List Char) → (power : ℤ) → Prop
  | none : Exponent [] 0
  | plain {mark : Char} {digits : List Char} (hMark : mark = 'e' ∨ mark = 'E')
      (h : IsDigits digits) : Exponent (mark :: digits) (Nat.ofDigitChars 10 digits 0)
  | plus {mark : Char} {digits : List Char} (hMark : mark = 'e' ∨ mark = 'E')
      (h : IsDigits digits) : Exponent (mark :: '+' :: digits) (Nat.ofDigitChars 10 digits 0)
  | minus {mark : Char} {digits : List Char} (hMark : mark = 'e' ∨ mark = 'E')
      (h : IsDigits digits) : Exponent (mark :: '-' :: digits) (-Nat.ofDigitChars 10 digits 0)

inductive Unsigned : (text : List Char) → (ratio : ℚ) → Prop
  | numeral {whole fraction digits exponent : List Char} {power : ℤ} (hWhole : IsWhole whole)
      (hFraction : Fraction fraction digits) (hExponent : Exponent exponent power) :
      Unsigned (whole ++ fraction ++ exponent)
        (Nat.ofDigitChars 10 (whole ++ digits) 0 * 10 ^ (power - digits.length))

/-- A numeral, its sign, and its ratio without the sign. -/
inductive Signed : (text : List Char) → (negative : Bool) → (ratio : ℚ) → Prop
  | plain {text : List Char} {ratio : ℚ} (h : Unsigned text ratio) : Signed text false ratio
  | minus {text : List Char} {ratio : ℚ} (h : Unsigned text ratio) :
      Signed ('-' :: text) true ratio

inductive SpellsNumber : Number → List Char → Prop
  | whole {n : ℤ} {hRange : -0x8000000000000000 ≤ n ∧ n < 0x10000000000000000} {text : List Char}
      {negative : Bool} {ratio : ℚ} (h : Signed text negative ratio)
      (hEqual : (n : ℚ) = if negative then -ratio else ratio) : SpellsNumber (.whole n hRange) text
  | real {x : Binary64} {text : List Char} {ratio : ℚ} (h : Signed text x.negative ratio)
      (hNear : x.IsNearest ratio) : SpellsNumber (.real x) text

/-! ## String literals -/

inductive HexDigit : Char → ℕ → Prop
  | digit {c : Char} (h : c.isDigit = true) : HexDigit c (c.toNat - 48)
  | lower {c : Char} (hLow : 'a' ≤ c) (hHigh : c ≤ 'f') : HexDigit c (c.toNat - 87)
  | upper {c : Char} (hLow : 'A' ≤ c) (hHigh : c ≤ 'F') : HexDigit c (c.toNat - 55)

inductive CodeUnit : ℕ → List Char → Prop
  | digits {a b c d : Char} {i j k l : ℕ} (ha : HexDigit a i) (hb : HexDigit b j)
      (hc : HexDigit c k) (hd : HexDigit d l) :
      CodeUnit (((i * 16 + j) * 16 + k) * 16 + l) [a, b, c, d]

def shortEscapes : List (Char × Char) :=
  [('"', '"'), ('\\', '\\'), ('/', '/'), ('\x08', 'b'), ('\x0c', 'f'), ('\n', 'n'), ('\r', 'r'),
    ('\t', 't')]

/-- What may stand for a character between quotes. -/
inductive SpellsChar : Char → List Char → Prop
  | plain {c : Char} (hControl : 0x20 ≤ c.toNat) (hQuote : c ≠ '"') (hEscape : c ≠ '\\') :
      SpellsChar c [c]
  | short {c letter : Char} (h : (c, letter) ∈ shortEscapes) : SpellsChar c ['\\', letter]
  | unit {c : Char} {digits : List Char} (h : CodeUnit c.toNat digits) :
      SpellsChar c ('\\' :: 'u' :: digits)
  | pair {c : Char} {high low : List Char} (hWide : 0x10000 ≤ c.toNat)
      (hHigh : CodeUnit (0xD800 + (c.toNat - 0x10000) / 0x400) high)
      (hLow : CodeUnit (0xDC00 + (c.toNat - 0x10000) % 0x400) low) :
      SpellsChar c ('\\' :: 'u' :: high ++ '\\' :: 'u' :: low)

def SpellsText (s : String) (text : List Char) : Prop :=
  ∃ parts, List.Forall₂ SpellsChar s.toList parts ∧ text = '"' :: parts.flatten ++ ['"']

/-! ## Documents -/

def IsBlank (c : Char) : Prop :=
  c = ' ' ∨ c = '\t' ∨ c = '\n' ∨ c = '\r'

instance (c : Char) : Decidable (IsBlank c) :=
  inferInstanceAs (Decidable (_ ∨ _))

inductive Part where
  | value (j : Json)
  | items (items : List Json)
  | name (name : String)
  | members (members : List (String × Json))

inductive Spells : Part → List Char → Prop
  | blankBefore {part : Part} {c : Char} {text : List Char} (hBlank : IsBlank c)
      (h : Spells part text) : Spells part (c :: text)
  | blankAfter {part : Part} {c : Char} {text : List Char} (hBlank : IsBlank c)
      (h : Spells part text) : Spells part (text ++ [c])
  | null : Spells (.value .null) ['n', 'u', 'l', 'l']
  | true : Spells (.value (.bool Bool.true)) ['t', 'r', 'u', 'e']
  | false : Spells (.value (.bool Bool.false)) ['f', 'a', 'l', 's', 'e']
  | number {n : Number} {text : List Char} (h : SpellsNumber n text) :
      Spells (.value (.number n)) text
  | text {s : String} {text : List Char} (h : SpellsText s text) : Spells (.value (.text s)) text
  | list {items : List Json} {text : List Char} (h : Spells (.items items) text) :
      Spells (.value (.list items)) ('[' :: text ++ [']'])
  | object {members : List (String × Json)} {text : List Char} (h : Spells (.members members) text) :
      Spells (.value (.object members)) ('\x7b' :: text ++ ['\x7d'])
  | noItems : Spells (.items []) []
  | lastItem {j : Json} {text : List Char} (h : Spells (.value j) text) : Spells (.items [j]) text
  | item {j j' : Json} {items : List Json} {text rest : List Char} (h : Spells (.value j) text)
      (hRest : Spells (.items (j' :: items)) rest) :
      Spells (.items (j :: j' :: items)) (text ++ ',' :: rest)
  | name {s : String} {text : List Char} (h : SpellsText s text) : Spells (.name s) text
  | noMembers : Spells (.members []) []
  | lastMember {s : String} {j : Json} {name text : List Char} (hName : Spells (.name s) name)
      (h : Spells (.value j) text) : Spells (.members [(s, j)]) (name ++ ':' :: text)
  | member {s : String} {j : Json} {m : String × Json} {members : List (String × Json)}
      {name text rest : List Char} (hName : Spells (.name s) name) (h : Spells (.value j) text)
      (hRest : Spells (.members (m :: members)) rest) :
      Spells (.members ((s, j) :: m :: members)) (name ++ ':' :: text ++ ',' :: rest)

/-- The text is a document of the value. -/
def IsDocument (text : String) (j : Json) : Prop :=
  Spells (.value j) text.toList

/-! ## Characters of documents -/

def IsPrinted (c : Char) : Prop :=
  IsBlank c ∨ 0x20 ≤ c.toNat

theorem isPrinted_of_isDigit {c : Char} (h : c.isDigit = true) : IsPrinted c := by
  have hLow : '0'.toNat ≤ c.toNat := by
    simp only [Char.isDigit, Bool.and_eq_true, decide_eq_true_eq] at h
    exact h.1
  exact .inr (le_trans (by decide) hLow)

theorem IsDigits.isPrinted {digits : List Char} (h : IsDigits digits) :
    ∀ c ∈ digits, IsPrinted c := by
  intro c hMem
  exact isPrinted_of_isDigit (h.all c hMem)

theorem Signed.isPrinted {text : List Char} {negative : Bool} {ratio : ℚ}
    (h : Signed text negative ratio) : ∀ c ∈ text, IsPrinted c := by
  have hMark {mark : Char} (h : mark = 'e' ∨ mark = 'E') : IsPrinted mark := by
    rcases h with rfl | rfl <;> exact .inr (by decide)
  have hPrinted {text : List Char} {ratio : ℚ} (h : Unsigned text ratio) :
      ∀ c ∈ text, IsPrinted c := by
    obtain ⟨hWhole, hFraction, hExponent⟩ := h
    simp only [List.forall_mem_append]
    refine ⟨⟨hWhole.isPrinted, ?_⟩, ?_⟩
    · cases hFraction with
      | none => exact List.forall_mem_nil _
      | point hDigits => exact List.forall_mem_cons.mpr ⟨.inr (by decide), hDigits.isPrinted⟩
    · cases hExponent with
      | none => exact List.forall_mem_nil _
      | plain hE hDigits => exact List.forall_mem_cons.mpr ⟨hMark hE, hDigits.isPrinted⟩
      | plus hE hDigits | minus hE hDigits =>
        simp only [List.forall_mem_cons]
        exact ⟨hMark hE, .inr (by decide), hDigits.isPrinted⟩
  cases h with
  | plain h => exact hPrinted h
  | minus h => exact List.forall_mem_cons.mpr ⟨.inr (by decide), hPrinted h⟩

theorem SpellsChar.isPrinted {c : Char} {text : List Char} (h : SpellsChar c text) :
    ∀ c ∈ text, IsPrinted c := by
  have hDigit {c : Char} {n : ℕ} (h : HexDigit c n) : IsPrinted c := by
    cases h with
    | digit h => exact isPrinted_of_isDigit h
    | lower h | upper h => exact .inr (le_trans (by decide) h)
  have hUnit {n : ℕ} {digits : List Char} (h : CodeUnit n digits) : ∀ c ∈ digits, IsPrinted c := by
    obtain ⟨ha, hb, hc, hd⟩ := h
    simp only [List.forall_mem_cons]
    exact ⟨hDigit ha, hDigit hb, hDigit hc, hDigit hd, List.forall_mem_nil _⟩
  have hMarks : IsPrinted '\\' ∧ IsPrinted 'u' := ⟨.inr (by decide), .inr (by decide)⟩
  cases h with
  | plain hControl => simpa using .inr hControl
  | short h =>
    have hLetters : shortEscapes.all (fun entry => 0x20 ≤ entry.2.toNat) = true := rfl
    have hLetter := of_decide_eq_true (List.all_eq_true.mp hLetters _ h)
    simpa [hMarks] using show IsPrinted _ from .inr hLetter
  | unit h => simpa [hMarks] using hUnit h
  | pair _ hHigh hLow =>
    simp only [List.cons_append, List.forall_mem_cons, List.forall_mem_append]
    exact ⟨hMarks.1, hMarks.2, hUnit hHigh, hMarks.1, hMarks.2, hUnit hLow⟩

theorem SpellsText.isPrinted {s : String} {text : List Char} (h : SpellsText s text) :
    ∀ c ∈ text, IsPrinted c := by
  obtain ⟨parts, hParts, rfl⟩ := h
  have hQuote : IsPrinted '"' := .inr (by decide)
  have hInside : ∀ c ∈ parts.flatten, IsPrinted c := by
    generalize s.toList = chars at hParts
    induction hParts with
    | nil => exact List.forall_mem_nil _
    | cons h _ ih =>
      rw [List.flatten_cons, List.forall_mem_append]
      exact ⟨h.isPrinted, ih⟩
  simp only [List.cons_append, List.forall_mem_cons, List.forall_mem_append]
  exact ⟨hQuote, hInside, hQuote, List.forall_mem_nil _⟩

theorem Spells.isPrinted {part : Part} {text : List Char} (h : Spells part text) :
    ∀ c ∈ text, IsPrinted c := by
  have hMark (c : Char) (h : 0x20 ≤ c.toNat) : IsPrinted c := .inr h
  have hWord {word : List Char} (h : word.all (fun c => 0x20 ≤ c.toNat) = Bool.true) :
      ∀ c ∈ word, IsPrinted c := by
    intro c hMem
    exact hMark c (of_decide_eq_true (List.all_eq_true.mp h c hMem))
  induction h with
  | blankBefore hBlank _ ih => exact List.forall_mem_cons.mpr ⟨.inl hBlank, ih⟩
  | blankAfter hBlank _ ih =>
    simp only [List.forall_mem_append, List.forall_mem_singleton]
    exact ⟨ih, .inl hBlank⟩
  | null | true | false => exact hWord rfl
  | number h =>
    obtain h | h := h <;> exact h.isPrinted
  | text h | name h => exact h.isPrinted
  | list _ ih | object _ ih =>
    simp only [List.cons_append, List.forall_mem_cons, List.forall_mem_append]
    exact ⟨hMark _ (by decide), ih, hMark _ (by decide), List.forall_mem_nil _⟩
  | noItems | noMembers => exact List.forall_mem_nil _
  | lastItem _ ih => exact ih
  | item _ _ ih ihRest =>
    simp only [List.forall_mem_cons, List.forall_mem_append]
    exact ⟨ih, hMark _ (by decide), ihRest⟩
  | lastMember _ _ ihName ih =>
    simp only [List.forall_mem_cons, List.forall_mem_append]
    exact ⟨ihName, hMark _ (by decide), ih⟩
  | member _ _ _ ihName ih ihRest =>
    simp only [List.append_assoc, List.cons_append, List.forall_mem_cons, List.forall_mem_append]
    exact ⟨ihName, hMark _ (by decide), ih, hMark _ (by decide), ihRest⟩

/-! ## How documents begin -/

def IsOpening (c : Char) : Prop :=
  c ∈ ['"', '[', '\x7b', '-', 'n', 't', 'f'] ∨ c.isDigit = Bool.true

instance (c : Char) : Decidable (IsOpening c) :=
  inferInstanceAs (Decidable (_ ∨ _))

/-- The first character, blanks apart, may be that of a value. -/
def Opens (text : List Char) : Prop :=
  ∃ blanks c rest, text = blanks ++ c :: rest ∧ (∀ b ∈ blanks, IsBlank b) ∧ IsOpening c

theorem opens_cons {c : Char} (h : IsOpening c) (rest : List Char) : Opens (c :: rest) :=
  ⟨[], c, rest, rfl, List.forall_mem_nil _, h⟩

theorem Opens.append {text : List Char} (h : Opens text) (more : List Char) :
    Opens (text ++ more) := by
  obtain ⟨blanks, c, rest, rfl, hBlanks, hOpening⟩ := h
  exact ⟨blanks, c, rest ++ more, by simp, hBlanks, hOpening⟩

theorem opens_cons_iff {c : Char} {text : List Char} :
    Opens (c :: text) ↔ IsOpening c ∨ IsBlank c ∧ Opens text := by
  constructor
  · rintro ⟨blanks, first, rest, hText, hBlanks, hOpening⟩
    rcases blanks with _ | ⟨blank, blanks⟩
    · obtain ⟨rfl, rfl⟩ := List.cons.inj hText
      exact .inl hOpening
    · obtain ⟨rfl, rfl⟩ := List.cons.inj hText
      obtain ⟨hBlank, hRest⟩ := List.forall_mem_cons.mp hBlanks
      exact .inr ⟨hBlank, blanks, first, rest, rfl, hRest, hOpening⟩
  · rintro (hOpening | ⟨hBlank, blanks, first, rest, rfl, hBlanks, hOpening⟩)
    · exact opens_cons hOpening text
    · exact ⟨c :: blanks, first, rest, rfl, List.forall_mem_cons.mpr ⟨hBlank, hBlanks⟩, hOpening⟩

theorem not_opens_cons {c : Char} {text : List Char} (hOpening : ¬IsOpening c)
    (hBlank : ¬IsBlank c) : ¬Opens (c :: text) := by
  simp [opens_cons_iff, hOpening, hBlank]

theorem not_opens_space {text : List Char} (h : ¬Opens text) : ¬Opens (' ' :: text) := by
  have hSpace : ¬IsOpening ' ' := by decide
  simp [opens_cons_iff, hSpace, h]

theorem Signed.opens {text : List Char} {negative : Bool} {ratio : ℚ}
    (h : Signed text negative ratio) : Opens text := by
  cases h with
  | minus _ => exact opens_cons (.inl (by decide)) _
  | plain h =>
    obtain ⟨hWhole, _, _⟩ := h
    rename_i whole _ _ _ _
    obtain ⟨digit, digits, rfl⟩ := List.exists_cons_of_ne_nil hWhole.filled
    exact opens_cons (.inr (hWhole.all digit List.mem_cons_self)) _

theorem IsDocument.opens {text : String} {j : Json} (h : IsDocument text j) :
    Opens text.toList := by
  rw [IsDocument] at h
  generalize text.toList = chars at h ⊢
  generalize hPart : Part.value j = part at h
  induction h with
  | blankBefore hBlank _ ih => exact opens_cons_iff.mpr (.inr ⟨hBlank, ih hPart⟩)
  | blankAfter _ _ ih => exact (ih hPart).append _
  | null | true | false | list | object => exact opens_cons (.inl (by decide)) _
  | number h =>
    obtain h | h := h <;> exact h.opens
  | text h =>
    obtain ⟨parts, _, rfl⟩ := h
    exact opens_cons (.inl (by decide)) _
  | _ => cases hPart

end EdgeApi.Json
