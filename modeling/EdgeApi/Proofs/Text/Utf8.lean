import EdgeApi.Text.Utf8

/-!
# UTF-8 there and back

The scan reads the bytes of a character as that character, whatever follows them, so that a text is
read back from its bytes.
-/

set_option autoImplicit false

namespace EdgeApi.Text.Utf8

theorem toNat_ofNat {n : Nat} (h : n < 256) : (UInt8.ofNat n).toNat = n :=
  UInt8.toNat_ofNat_of_lt' h

/-! ## The bytes inside a character -/

section Inside

variable {value low high n : Nat} (rest : List UInt8)

theorem scan_inside_last (hLow : low ≤ 0x80 + n) (hHigh : 0x80 + n < high) (hn : n < 64) :
    scan (.inside 1 value low high) (UInt8.ofNat (0x80 + n) :: rest) =
      some (Char.ofNat (value * 64 + n)) :: scan .idle rest := by
  have hByte : (0x80 + n) % 256 = 0x80 + n := Nat.mod_eq_of_lt (by omega)
  simp [scan, hByte, hLow, hHigh]

theorem scan_inside_next {due : Nat} (hDue : 0 < due) (hLow : low ≤ 0x80 + n)
    (hHigh : 0x80 + n < high) (hn : n < 64) :
    scan (.inside (due + 1) value low high) (UInt8.ofNat (0x80 + n) :: rest) =
      scan (.inside due (value * 64 + n) 0x80 0xC0) rest := by
  have hByte : (0x80 + n) % 256 = 0x80 + n := Nat.mod_eq_of_lt (by omega)
  have hMore : due ≠ 0 := by omega
  simp [scan, hByte, hLow, hHigh, hMore]

end Inside

/-! ## Characters by the number of their bytes -/

section Lead

variable {n : Nat} (rest : List UInt8)

theorem scan_lead_one (h : n < 0x80) :
    scan .idle (UInt8.ofNat n :: rest) = some (Char.ofNat n) :: scan .idle rest := by
  have hByte : n % 256 = n := Nat.mod_eq_of_lt (by omega)
  simp [scan, lead, hByte, h]

theorem scan_lead_two (hLow : 2 ≤ n) (hHigh : n < 0x20) :
    scan .idle (UInt8.ofNat (0xC0 + n) :: rest) = scan (.inside 1 n 0x80 0xC0) rest := by
  have hByte : (UInt8.ofNat (0xC0 + n)).toNat = 0xC0 + n := toNat_ofNat (by omega)
  have h₁ : ¬0xC0 + n < 0x80 := by omega
  have h₂ : ¬0xC0 + n < 0xC2 := by omega
  have h₃ : 0xC0 + n < 0xE0 := by omega
  simp only [scan, lead, hByte, if_neg h₁, if_neg h₂, if_pos h₃, Nat.add_sub_cancel_left]

theorem scan_lead_three (h : n < 0x10) :
    scan .idle (UInt8.ofNat (0xE0 + n) :: rest) =
      scan (.inside 2 n (if n = 0 then 0xA0 else 0x80) (if n = 0xD then 0xA0 else 0xC0)) rest := by
  have hByte : (UInt8.ofNat (0xE0 + n)).toNat = 0xE0 + n := toNat_ofNat (by omega)
  have h₁ : ¬0xE0 + n < 0x80 := by omega
  have h₂ : ¬0xE0 + n < 0xC2 := by omega
  have h₃ : ¬0xE0 + n < 0xE0 := by omega
  have h₄ : 0xE0 + n < 0xF0 := by omega
  have hFirst : 0xE0 + n = 0xE0 ↔ n = 0 := by omega
  have hSurrogate : 0xE0 + n = 0xED ↔ n = 0xD := by omega
  simp only [scan, lead, hByte, if_neg h₁, if_neg h₂, if_neg h₃, if_pos h₄, hFirst, hSurrogate,
    Nat.add_sub_cancel_left]

theorem scan_lead_four (h : n < 5) :
    scan .idle (UInt8.ofNat (0xF0 + n) :: rest) =
      scan (.inside 3 n (if n = 0 then 0x90 else 0x80) (if n = 4 then 0x90 else 0xC0)) rest := by
  have hByte : (UInt8.ofNat (0xF0 + n)).toNat = 0xF0 + n := toNat_ofNat (by omega)
  have h₁ : ¬0xF0 + n < 0x80 := by omega
  have h₂ : ¬0xF0 + n < 0xC2 := by omega
  have h₃ : ¬0xF0 + n < 0xE0 := by omega
  have h₄ : ¬0xF0 + n < 0xF0 := by omega
  have h₅ : 0xF0 + n < 0xF5 := by omega
  have hFirst : 0xF0 + n = 0xF0 ↔ n = 0 := by omega
  have hLast : 0xF0 + n = 0xF4 ↔ n = 4 := by omega
  simp only [scan, lead, hByte, if_neg h₁, if_neg h₂, if_neg h₃, if_neg h₄, if_pos h₅, hFirst,
    hLast, Nat.add_sub_cancel_left]

end Lead

/-! ## Texts -/

theorem scan_encodeChar (c : Char) (rest : List UInt8) :
    scan .idle (encodeChar c ++ rest) = some c :: scan .idle rest := by
  -- surrogates are no characters, and there are none past the last plane
  have hValid : c.toNat < 0xD800 ∨ 0xDFFF < c.toNat ∧ c.toNat < 0x110000 := c.valid
  have hChar {n : Nat} (h : n = c.toNat) : Char.ofNat n = c := h ▸ Char.ofNat_toNat c
  unfold encodeChar
  dsimp only
  split
  · rename_i hOne
    rw [List.singleton_append, scan_lead_one rest hOne, hChar rfl]
  · split
    · rw [List.cons_append, List.singleton_append, scan_lead_two _ (by omega) (by omega),
        scan_inside_last _ (by omega) (by omega) (by omega), hChar (by omega)]
    · split
      · have hLow : (if c.toNat / 4096 = 0 then 0xA0 else 0x80) ≤ 0x80 + c.toNat / 64 % 64 := by
          split <;> omega
        have hHigh : 0x80 + c.toNat / 64 % 64 < if c.toNat / 4096 = 0xD then 0xA0 else 0xC0 := by
          split <;> omega
        rw [List.cons_append, List.cons_append, List.singleton_append,
          scan_lead_three _ (by omega), scan_inside_next _ (by decide) hLow hHigh (by omega),
          scan_inside_last _ (by omega) (by omega) (by omega), hChar (by omega)]
      · have hLow : (if c.toNat / 262144 = 0 then 0x90 else 0x80) ≤
            0x80 + c.toNat / 4096 % 64 := by
          split <;> omega
        have hHigh : 0x80 + c.toNat / 4096 % 64 <
            if c.toNat / 262144 = 4 then 0x90 else 0xC0 := by
          split <;> omega
        rw [List.cons_append, List.cons_append, List.cons_append, List.singleton_append,
          scan_lead_four _ (by omega), scan_inside_next _ (by decide) hLow hHigh (by omega),
          scan_inside_next _ (by decide) (by omega) (by omega) (by omega),
          scan_inside_last _ (by omega) (by omega) (by omega), hChar (by omega)]

theorem encodeChar_ofNat {n : Nat} (h : n < 0x80) : encodeChar (Char.ofNat n) = [UInt8.ofNat n] := by
  have hValid : n.isValidChar := .inl (by omega)
  have hChar : (Char.ofNat n).toNat = n := by
    rw [Char.ofNat, dif_pos hValid]
    rfl
  rw [encodeChar, hChar, if_pos h]

theorem scan_flatMap_encodeChar (chars : List Char) :
    scan .idle (chars.flatMap encodeChar) = chars.map some := by
  induction chars with
  | nil => rfl
  | cons c chars ih => rw [List.flatMap_cons, scan_encodeChar, ih, List.map_cons]

theorem encode_append (s t : String) : encode (s ++ t) = encode s ++ encode t := by
  simp [encode]

@[simp] theorem decodeLossy_encode (s : String) : decodeLossy (encode s) = s := by
  simp [decodeLossy, encode, scan_flatMap_encodeChar, Function.comp_def]

end EdgeApi.Text.Utf8
