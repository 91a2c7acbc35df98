import EdgeApi.Json.Printer
import EdgeApi.Proofs.Json.Grammar
import EdgeApi.Proofs.Number.Shortest

/-!
# Numerals of the printer

The printer writes a whole number by its digits, and a binary number by its shortest decimal in one
of four layouts. Each layout is a numeral of the ratio of that decimal.
-/

set_option autoImplicit false

namespace EdgeApi.Json

/-! ## Digits -/

theorem isDigits_toDigits (n : ℕ) : IsDigits (Nat.toDigits 10 n) where
  filled := Nat.toDigits_ne_nil
  all _ hMem := Nat.isDigit_of_mem_toDigits (by decide) (by decide) hMem

theorem head?_toDigits {n : ℕ} (h : n ≠ 0) : (Nat.toDigits 10 n).head? ≠ some '0' := by
  induction n using Nat.strongRecOn with
  | ind n ih =>
    rw [Nat.toDigits_eq_if (by decide)]
    split
    · rename_i hSmall
      have hDigit : ∀ m < 10, m ≠ 0 → [Nat.digitChar m].head? ≠ some '0' := by decide
      exact hDigit n hSmall h
    · rename_i hLarge
      have hFront := ih (n / 10) (by omega) (by omega)
      rwa [List.head?_append_of_ne_nil _ Nat.toDigits_ne_nil]

theorem isWhole_toDigits (n : ℕ) : IsWhole (Nat.toDigits 10 n) where
  toIsDigits := isDigits_toDigits n
  leading hZero := by
    by_cases hn : n = 0
    · subst hn
      rfl
    · exact absurd hZero (head?_toDigits hn)

theorem isDigits_replicate {k : ℕ} (h : k ≠ 0) : IsDigits (List.replicate k '0') where
  filled := by simpa using h
  all c hMem := by
    rw [List.eq_of_mem_replicate hMem]
    rfl

theorem IsDigits.append {digits : List Char} (h : IsDigits digits) {more : List Char}
    (hMore : ∀ c ∈ more, c.isDigit = true) : IsDigits (digits ++ more) where
  filled := by simp [h.filled]
  all := List.forall_mem_append.mpr ⟨h.all, hMore⟩

theorem Unsigned.of_eq {whole fraction digits exponent : List Char} {power : ℤ} {ratio : ℚ}
    (hWhole : IsWhole whole) (hFraction : Fraction fraction digits)
    (hExponent : Exponent exponent power)
    (hRatio : Nat.ofDigitChars 10 (whole ++ digits) 0 * 10 ^ (power - digits.length) = ratio) :
    Unsigned (whole ++ fraction ++ exponent) ratio :=
  hRatio ▸ .numeral hWhole hFraction hExponent

/-! ## Whole numbers -/

theorem unsigned_toDigits (n : ℕ) : Unsigned (Nat.toDigits 10 n) n := by
  have h := Unsigned.numeral (isWhole_toDigits n) .none .none
  simpa using h

theorem spellsNumber_whole (n : ℤ) (hRange : -0x8000000000000000 ≤ n ∧ n < 0x10000000000000000) :
    SpellsNumber (.whole n hRange) (toString n).toList := by
  rw [Int.toString_eq_repr, Int.repr_eq_if]
  split
  · rename_i hSign
    have hEqual : (n : ℚ) = if false then -(n.toNat : ℚ) else n.toNat := by
      exact_mod_cast (Int.toNat_of_nonneg hSign).symm
    rw [Nat.toList_repr]
    exact .whole (.plain (unsigned_toDigits _)) hEqual
  · rename_i hSign
    have hEqual : (n : ℚ) = if true then -((-n).toNat : ℚ) else (-n).toNat := by
      have hNegated := Int.toNat_of_nonneg (show 0 ≤ -n by omega)
      rw [if_pos rfl, ← Int.cast_natCast, hNegated, Int.cast_neg, neg_neg]
    rw [String.toList_append, Nat.toList_repr]
    exact .whole (.minus (unsigned_toDigits _)) hEqual

/-! ## Layouts -/

section Layouts

variable {n k : ℕ}

theorem unsigned_filled (hn : n ≠ 0) (k : ℕ) :
    Unsigned (Nat.toDigits 10 n ++ List.replicate k '0' ++ ['.', '0']) (n * 10 ^ (k : ℤ)) := by
  have hDigits : IsDigits (Nat.toDigits 10 n ++ List.replicate k '0') := by
    apply (isDigits_toDigits n).append
    intro c hMem
    rw [List.eq_of_mem_replicate hMem]
    rfl
  have hWhole : IsWhole (Nat.toDigits 10 n ++ List.replicate k '0') := by
    refine ⟨hDigits, ?_⟩
    intro hZero
    rw [List.head?_append_of_ne_nil _ Nat.toDigits_ne_nil] at hZero
    exact absurd hZero (head?_toDigits hn)
  have h : Unsigned (Nat.toDigits 10 n ++ List.replicate k '0' ++ ['.', '0'] ++ [])
      (n * 10 ^ (k : ℤ)) := by
    refine .of_eq hWhole (.point (isDigits_replicate one_ne_zero)) .none ?_
    rw [Nat.ofDigitChars_append, Nat.ofDigitChars_append, Nat.ofDigitChars_ten_toDigits,
      Nat.ofDigitChars_replicate_zero]
    norm_num [Nat.ofDigitChars_cons]
    ring
  rwa [List.append_nil] at h

theorem isWhole_take (hn : n ≠ 0) (hk : k ≠ 0) : IsWhole ((Nat.toDigits 10 n).take k) := by
  refine ⟨⟨?_, ?_⟩, ?_⟩
  · simp [hk, Nat.toDigits_ne_nil]
  · intro c hMem
    exact (isDigits_toDigits n).all c (List.mem_of_mem_take hMem)
  · intro hZero
    rw [List.head?_take, if_neg hk] at hZero
    exact absurd hZero (head?_toDigits hn)

theorem isDigits_drop (hLess : k < (Nat.toDigits 10 n).length) :
    IsDigits ((Nat.toDigits 10 n).drop k) := by
  refine ⟨by simpa using hLess, ?_⟩
  intro c hMem
  exact (isDigits_toDigits n).all c (List.mem_of_mem_drop hMem)

/-- The point inside the digits, and then a power of ten, if there is one. -/
theorem unsigned_split (hn : n ≠ 0) (hk : k ≠ 0) (hLess : k < (Nat.toDigits 10 n).length)
    {exponent : List Char} {power : ℤ} (hExponent : Exponent exponent power) :
    Unsigned ((Nat.toDigits 10 n).take k ++ '.' :: (Nat.toDigits 10 n).drop k ++ exponent)
      (n * 10 ^ (power + k - (Nat.toDigits 10 n).length)) := by
  refine .of_eq (isWhole_take hn hk) (.point (isDigits_drop hLess)) hExponent ?_
  rw [List.take_append_drop, Nat.ofDigitChars_ten_toDigits, List.length_drop,
    Nat.cast_sub hLess.le, sub_sub_eq_add_sub]

theorem unsigned_below (n k : ℕ) :
    Unsigned ('0' :: '.' :: List.replicate k '0' ++ Nat.toDigits 10 n)
      (n * 10 ^ (-(k : ℤ) - (Nat.toDigits 10 n).length)) := by
  have hDigits : IsDigits (List.replicate k '0' ++ Nat.toDigits 10 n) := by
    refine ⟨by simp [Nat.toDigits_ne_nil], ?_⟩
    rw [List.forall_mem_append]
    refine ⟨?_, (isDigits_toDigits n).all⟩
    intro c hMem
    rw [List.eq_of_mem_replicate hMem]
    rfl
  have h : Unsigned (['0'] ++ '.' :: (List.replicate k '0' ++ Nat.toDigits 10 n) ++ [])
      (n * 10 ^ (-(k : ℤ) - (Nat.toDigits 10 n).length)) := by
    refine .of_eq (isWhole_toDigits 0) (.point hDigits) .none ?_
    rw [Nat.ofDigitChars_append, Nat.ofDigitChars_append, Nat.ofDigitChars_replicate_zero]
    simp [Nat.ofDigitChars_cons, sub_eq_add_neg, add_comm]
  simpa using h

theorem exponent_toDigits (power : ℤ) :
    Exponent ('e' :: (if power < 0 then '-' else '+') :: Nat.toDigits 10 power.natAbs) power := by
  split
  · rename_i hSign
    have h := Exponent.minus (.inl rfl) (isDigits_toDigits power.natAbs)
    rwa [Nat.ofDigitChars_ten_toDigits, Int.ofNat_natAbs_of_nonpos hSign.le, neg_neg] at h
  · rename_i hSign
    have h := Exponent.plus (.inl rfl) (isDigits_toDigits power.natAbs)
    rwa [Nat.ofDigitChars_ten_toDigits, Int.natAbs_of_nonneg (not_lt.mp hSign)] at h

/-- One digit before the point, and a power of ten. -/
theorem unsigned_scientific (hn : n ≠ 0) (power : ℤ) :
    Unsigned ((Nat.toDigits 10 n).take 1 ++
        (if (Nat.toDigits 10 n).length = 1 then [] else '.' :: (Nat.toDigits 10 n).drop 1) ++
        ('e' :: (if power < 0 then '-' else '+') :: Nat.toDigits 10 power.natAbs))
      (n * 10 ^ (power + 1 - (Nat.toDigits 10 n).length)) := by
  have hLength : 0 < (Nat.toDigits 10 n).length := Nat.length_toDigits_pos
  split
  · rename_i hOne
    refine .of_eq (isWhole_take hn one_ne_zero) .none (exponent_toDigits power) ?_
    rw [List.append_nil, List.take_of_length_le hOne.le, Nat.ofDigitChars_ten_toDigits, hOne]
    simp
  · rename_i hMore
    exact unsigned_split hn one_ne_zero (by omega) (exponent_toDigits power)

end Layouts

/-! ## Binary numbers -/

theorem magnitude_of_isZero {x : Binary64} (h : x.isZero = true) : x.magnitude = 0 := by
  have hBits : x.bits.toNat % 0x8000000000000000 = 0 := by
    simpa [Binary64.isZero] using h
  have hSignificand : x.significand = 0 := by
    rw [Binary64.significand, Binary64.biasedExponent, Binary64.fraction]
    split <;> omega
  rw [Binary64.magnitude, hSignificand, Nat.cast_zero, zero_mul]

theorem spellsNumber_real (x : Binary64) : SpellsNumber (.real x) x.render.toList := by
  have hSigned {body : List Char} {ratio : ℚ} (h : Unsigned body ratio) :
      Signed ((if x.negative then "-" else "") ++ String.ofList body).toList x.negative ratio := by
    rw [String.toList_append, String.toList_ofList]
    cases x.negative with
    | true => exact .minus h
    | false => exact .plain h
  rw [Binary64.render]
  cases hZero : x.isZero with
  | true =>
    have hText : Unsigned ['0', '.', '0'] 0 := by
      have h := unsigned_below 0 0
      rwa [Nat.cast_zero, zero_mul] at h
    exact .real (hSigned hText) (magnitude_of_isZero hZero ▸ x.isNearest_magnitude)
  | false =>
    obtain ⟨hFilled, hNear⟩ := Binary64.isNearest_shortest hZero
    refine .real (hSigned ?_) hNear
    rw [Binary64.Decimal.ratio]
    generalize x.shortest.reduce.digits = n at hFilled ⊢
    generalize x.shortest.reduce.exponent = e
    have hLength : 0 < (Nat.toDigits 10 n).length := Nat.length_toDigits_pos
    generalize hLead : ((Nat.toDigits 10 n).length : ℤ) - 1 + e = lead
    split
    · rename_i hPositional
      split
      · rename_i hWhole
        have h := unsigned_filled hFilled e.toNat
        rwa [Int.toNat_of_nonneg hWhole] at h
      · rename_i hFraction
        split
        · rename_i hInside
          have hPoint : lead.toNat + 1 < (Nat.toDigits 10 n).length := by omega
          have hExponent : (0 : ℤ) + (lead.toNat + 1 : ℕ) - (Nat.toDigits 10 n).length = e := by
            omega
          have h := unsigned_split hFilled (Nat.succ_ne_zero _) hPoint .none
          rwa [hExponent, List.append_nil] at h
        · rename_i hBelow
          have hExponent : -(((-lead).toNat - 1 : ℕ) : ℤ) - (Nat.toDigits 10 n).length = e := by
            omega
          have h := unsigned_below n ((-lead).toNat - 1)
          rwa [hExponent] at h
    · have hExponent : lead + 1 - (Nat.toDigits 10 n).length = e := by omega
      have h := unsigned_scientific hFilled lead
      rw [hExponent] at h
      simpa using h

theorem spellsNumber_renderNumber (n : Number) : SpellsNumber n (renderNumber n).toList := by
  cases n with
  | whole n hRange => exact spellsNumber_whole n hRange
  | real x => exact spellsNumber_real x

end EdgeApi.Json
