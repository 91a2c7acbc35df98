import EdgeApi.Time.Reading
import Mathlib.Algebra.Group.Nat.Defs

/-!
# Rendered timestamps

The text of a timestamp is read back as the same instant.
-/

set_option autoImplicit false

namespace EdgeApi.Timestamp

section Digits

variable {c : Char} {cs ds : List Char} {width n : Nat}

theorem isDigit_iff : c.isDigit = true ↔ '0' ≤ c ∧ c ≤ '9' := by
  rw [Char.isDigit, Bool.and_eq_true, decide_eq_true_iff, decide_eq_true_iff]
  exact Iff.rfl

theorem digitValue?_of_isDigit (h : c.isDigit = true) : digitValue? c = some (c.toNat - 48) :=
  if_pos (isDigit_iff.mp h)

theorem isBlank_of_isDigit (h : c.isDigit = true) : Text.isBlank c = false := by
  obtain ⟨hLow, hHigh⟩ := isDigit_iff.mp h
  have hLow : 48 ≤ c.toNat := hLow
  have hHigh : c.toNat ≤ 57 := hHigh
  simp only [Text.isBlank, Bool.or_eq_false_iff, Bool.and_eq_false_iff, decide_eq_false_iff_not,
    beq_eq_false_iff_ne]
  omega

theorem dropBlanks_of_isDigit (h : c.isDigit = true) : dropBlanks (c :: cs) = c :: cs := by
  rw [dropBlanks, List.dropWhile_cons, isBlank_of_isDigit h]
  rfl

/-- All digits are taken, if there are as many as may be or something else follows. -/
theorem takeDigits_append {limit : Nat} (hDigits : ∀ d ∈ ds, d.isDigit = true)
    (hLimit : ds.length ≤ limit)
    (hEnd : ds.length = limit ∨ ∃ c rest, cs = c :: rest ∧ digitValue? c = none) :
    takeDigits limit n (ds ++ cs) = (Nat.ofDigitChars 10 ds n, ds.length, cs) := by
  induction ds generalizing limit n with
  | nil =>
    rcases hEnd with rfl | ⟨c, rest, rfl, hOther⟩
    · rfl
    · rcases limit with _ | limit
      · rfl
      · rw [List.nil_append, takeDigits, hOther]
        rfl
  | cons d ds ih =>
    obtain ⟨hDigit, hDigits⟩ := List.forall_mem_cons.mp hDigits
    rcases limit with _ | limit
    · cases hLimit
    · have hRest := ih (n := n * 10 + (d.toNat - 48)) hDigits (Nat.le_of_succ_le_succ hLimit)
        (hEnd.imp_left Nat.succ.inj)
      rw [List.cons_append, takeDigits, digitValue?_of_isDigit hDigit]
      simp only [hRest, Nat.ofDigitChars_cons, Nat.mul_comm 10 n]
      rfl

theorem isDigit_of_mem_padded (h : c ∈ padded width n) : c.isDigit = true := by
  rcases List.mem_append.mp h with h | h
  · rw [List.eq_of_mem_replicate h]
    rfl
  · exact Nat.isDigit_of_mem_toDigits (by decide) (by decide) h

theorem exists_padded_eq_cons (width n : Nat) :
    ∃ d ds, padded width n = d :: ds ∧ d.isDigit = true := by
  rcases hDigits : padded width n with _ | ⟨d, ds⟩
  · exact absurd (List.append_eq_nil_iff.mp hDigits).2 Nat.toDigits_ne_nil
  · exact ⟨d, ds, rfl, isDigit_of_mem_padded (hDigits ▸ List.mem_cons_self)⟩

theorem length_padded (hWidth : 0 < width) (h : n < 10 ^ width) :
    (padded width n).length = width := by
  have hLength : (Nat.toDigits 10 n).length ≤ width :=
    (Nat.length_toDigits_le_iff (by decide) hWidth).mpr h
  rw [padded, List.length_append, List.length_replicate]
  omega

theorem ofDigitChars_padded : Nat.ofDigitChars 10 (padded width n) 0 = n := by
  have hZeros (k : Nat) : Nat.ofDigitChars 10 (List.replicate k '0') 0 = 0 := by
    induction k with
    | zero => rfl
    | succ k ih => exact ih
  rw [padded, Nat.ofDigitChars_append, hZeros, Nat.ofDigitChars_ten_toDigits]

theorem takeDigits_padded (hWidth : 0 < width) (h : n < 10 ^ width) :
    takeDigits width 0 (padded width n ++ cs) = (n, width, cs) := by
  have hLength := length_padded hWidth h
  rw [takeDigits_append (fun _ => isDigit_of_mem_padded) (Nat.le_of_eq hLength) (.inl hLength),
    ofDigitChars_padded, hLength]

theorem readField_padded (h : n < 100) : readField (padded 2 n ++ cs) = some (n, cs) := by
  obtain ⟨d, ds, hPadded, hDigit⟩ := exists_padded_eq_cons 2 n
  have hDrop : dropBlanks (padded 2 n ++ cs) = padded 2 n ++ cs := by
    rw [hPadded]
    exact dropBlanks_of_isDigit hDigit
  rw [readField, hDrop, readDigits, takeDigits_padded (by decide) h]
  rfl

theorem readDigits_padded {limit : Nat} (hLimit : (padded width n).length ≤ limit)
    (hEnd : digitValue? c = none) :
    readDigits limit (padded width n ++ c :: cs) = some (n, c :: cs) := by
  obtain ⟨d, ds, hPadded, _⟩ := exists_padded_eq_cons width n
  rw [readDigits, takeDigits_append (fun _ => isDigit_of_mem_padded) hLimit
    (.inr ⟨c, cs, rfl, hEnd⟩), ofDigitChars_padded, hPadded]
  rfl

theorem readYear_of_isDigit (h : c.isDigit = true) :
    readYear (c :: cs) = (readDigits 4 (c :: cs)).map fun (n, r) => ((n : Int), r) := by
  rw [readYear, dropBlanks_of_isDigit h]
  split
  · rename_i hEq
    cases hEq
    exact absurd h (by decide)
  · rename_i hEq
    cases hEq
    exact absurd h (by decide)
  · rfl

theorem readYear_minus :
    readYear ('-' :: cs) = (readDigits cs.length cs).map fun (n, r) => (-(n : Int), r) :=
  rfl

theorem readYear_plus :
    readYear ('+' :: cs) = (readDigits cs.length cs).map fun (n, r) => ((n : Int), r) :=
  rfl

end Digits

theorem readYear_renderYear (year : Int) (rest : List Char) :
    readYear (renderYear year ++ '-' :: rest) = some (year, '-' :: rest) := by
  have hSigned (n : Nat) :
      readDigits (padded 4 n ++ '-' :: rest).length (padded 4 n ++ '-' :: rest) =
        some (n, '-' :: rest) :=
    readDigits_padded (by rw [List.length_append]; omega) rfl
  have hYear {y : Int} (hEq : y = year) : some (y, '-' :: rest) = some (year, '-' :: rest) :=
    congrArg (fun y => some (y, '-' :: rest)) hEq
  rw [renderYear]
  split
  · obtain ⟨d, ds, hPadded, hDigit⟩ := exists_padded_eq_cons 4 year.toNat
    have hLength : (padded 4 year.toNat).length = 4 := length_padded (by decide) (by omega)
    have hRead : readDigits 4 (padded 4 year.toNat ++ '-' :: rest) =
        some (year.toNat, '-' :: rest) :=
      readDigits_padded (Nat.le_of_eq hLength) rfl
    rw [hPadded] at hRead ⊢
    rw [List.cons_append] at hRead ⊢
    rw [readYear_of_isDigit hDigit, hRead]
    exact hYear (by omega)
  · split
    · rw [List.cons_append, readYear_minus, hSigned]
      exact hYear (by omega)
    · rw [List.cons_append, readYear_plus, hSigned]
      exact hYear (by omega)

theorem readFraction_padded {width n : Nat} (hWidth : 0 < width) (hLimit : width ≤ 9)
    (h : n < 10 ^ width) :
    readFraction ('.' :: padded width n ++ ['Z']) = some (n * 10 ^ (9 - width), ['Z']) := by
  have hLength := length_padded hWidth h
  have hTake : takeDigits 9 0 (padded width n ++ ['Z']) = (n, width, ['Z']) := by
    rw [takeDigits_append (fun _ => isDigit_of_mem_padded)
      (Nat.le_trans (Nat.le_of_eq hLength) hLimit) (.inr ⟨'Z', [], rfl, rfl⟩),
      ofDigitChars_padded, hLength]
  rw [List.cons_append, readFraction, hTake]
  rcases width with _ | width
  · cases hWidth
  · rfl

theorem readFraction_renderFraction {nano : Nat} (h : nano < 1000000000) :
    readFraction (renderFraction nano ++ ['Z']) = some (nano, ['Z']) := by
  have hNano {n : Nat} (hEq : n = nano) : some (n, ['Z']) = some (nano, ['Z']) :=
    congrArg (fun n => some (n, ['Z'])) hEq
  rw [renderFraction]
  split
  · exact hNano (Eq.symm ‹_›)
  · split
    · rw [readFraction_padded (by decide) (by decide) (by omega)]
      exact hNano (by omega)
    · split
      · rw [readFraction_padded (by decide) (by decide) (by omega)]
        exact hNano (by omega)
      · rw [readFraction_padded (by decide) (by decide) (by omega)]
        exact hNano (by omega)

theorem ofLocal_utc (t : Timestamp) :
    ofLocal t.date t.hour t.minute t.second t.nano 0 = some t := by
  obtain ⟨date, hour, minute, second, nano, hValid⟩ := t
  obtain ⟨hDate, hHour, hMinute, hSecond, hNano⟩ := id hValid
  have hClock : ((hour * 60 + minute - 0 : Int) % 1440).toNat = hour * 60 + minute := by omega
  have hDay : ¬(hour * 60 + minute - 0 : Int) < 0 ∧ ¬1440 ≤ (hour * 60 + minute - 0 : Int) := by
    omega
  have hHour' : (hour * 60 + minute) / 60 = hour := by omega
  have hMinute' : (hour * 60 + minute) % 60 = minute := by omega
  simp only [ofLocal, hClock, if_neg hDay.1, if_neg hDay.2, hHour', hMinute', hDate, hHour, hMinute,
    hSecond, hNano, and_self, if_true, dite_true]

theorem readMark_cons {mark : Char} (h : Text.isBlank mark = false) (cs : List Char) :
    readMark mark (mark :: cs) = some cs := by
  rw [readMark, dropBlanks, List.dropWhile_cons, h]
  exact if_pos rfl

/-- A reader that comes to a value hands it to what follows. -/
theorem bind_eq_some {α β : Type} {o : Option α} {f : α → Option β} {a : α} {b : β}
    (h : o = some a) (hRest : f a = some b) : (o >>= f) = some b := by
  rw [h]
  exact hRest

/-- The text of a timestamp is read as that timestamp. -/
theorem parse_render (t : Timestamp) : parse t.render = some t := by
  obtain ⟨⟨_, hMonth, hDay⟩, hHour, hMinute, hSecond, hNano⟩ := t.valid
  have hLength : Date.monthLength t.date.year t.date.month ≤ 31 := by
    unfold Date.monthLength
    grind
  have hRender : t.render.toList = renderYear t.date.year ++ '-' :: (padded 2 t.date.month ++
      '-' :: (padded 2 t.date.day ++ 'T' :: (padded 2 t.hour ++ ':' :: (padded 2 t.minute ++
        ':' :: (padded 2 t.second ++ (renderFraction t.nano ++ ['Z'])))))) := by
    rw [render, String.toList_ofList]
    simp only [renderDate, renderClock, List.append_assoc, List.cons_append]
  rw [parse, hRender]
  -- Each reader leaves what the next one expects.
  refine bind_eq_some (readYear_renderYear ..) <| bind_eq_some (readMark_cons (by decide) _) ?_
  refine bind_eq_some (readField_padded (by omega)) <| bind_eq_some (readMark_cons (by decide) _) ?_
  refine bind_eq_some (readField_padded (by omega)) <| bind_eq_some rfl ?_
  refine bind_eq_some (readField_padded (by omega)) <| bind_eq_some (readMark_cons (by decide) _) ?_
  refine bind_eq_some (readField_padded (by omega)) <| bind_eq_some (readMark_cons (by decide) _) ?_
  refine bind_eq_some (readField_padded (by omega)) ?_
  refine bind_eq_some (readFraction_renderFraction hNano) <| bind_eq_some (a := (0, [])) rfl ?_
  exact ofLocal_utc t

end EdgeApi.Timestamp
