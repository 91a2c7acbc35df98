import EdgeApi.Proofs.Uri.Percent
import EdgeApi.Uri.Query

/-!
# Queries there and back

Of what is written for a pair no byte is a separator, so that the pairs of a query are told apart and
every key and value is read back. A path without a question mark therefore keeps apart from its
query.
-/

set_option autoImplicit false

namespace EdgeApi.Uri

open Text.Utf8 (encodeChar encodeChar_ofNat)

namespace Query

/-! ## Bytes -/

/-- The bytes of the text that is written for a byte. -/
def written (b : UInt8) : List UInt8 :=
  (encodeByte b).flatMap encodeChar

theorem toNat_lt_of_isPlain {b : UInt8} (h : isPlain b = true) : b.toNat < 0x80 := by
  simp only [isPlain, isAlphanumeric, Bool.or_eq_true, Bool.and_eq_true, decide_eq_true_eq,
    beq_iff_eq, UInt8.le_iff_toNat_le, ← UInt8.toNat_inj, UInt8.reduceToNat] at h
  omega

theorem written_of_isPlain {b : UInt8} (h : isPlain b = true) : written b = [b] := by
  have hByte : encodeByte b = [Char.ofNat b.toNat] := if_pos h
  rw [written, hByte, List.flatMap_singleton, encodeChar_ofNat (toNat_lt_of_isPlain h),
    UInt8.ofNat_toNat]

theorem written_space : written 0x20 = [0x2B] :=
  rfl

theorem written_of_not_isPlain {b : UInt8} (h : isPlain b = false) (hSpace : b ≠ 0x20) :
    written b = [0x25, hexByte (b.toNat / 16), hexByte (b.toNat % 16)] := by
  rw [written, encodeByte, h, if_neg Bool.false_ne_true, if_neg (by simpa using hSpace),
    flatMap_percentByte]

theorem isPlain_hexByte {n : Nat} (h : n < 16) : isPlain (hexByte n) = true := by
  revert n
  decide

theorem written_cases (b : UInt8) :
    isPlain b = true ∧ written b = [b] ∨ b = 0x20 ∧ written b = [0x2B] ∨
      written b = [0x25, hexByte (b.toNat / 16), hexByte (b.toNat % 16)] := by
  rcases hPlain : isPlain b with _ | _
  · by_cases hSpace : b = 0x20
    · exact .inr (.inl ⟨hSpace, hSpace ▸ written_space⟩)
    · exact .inr (.inr (written_of_not_isPlain hPlain hSpace))
  · exact .inl ⟨rfl, written_of_isPlain hPlain⟩

theorem of_mem_written {b x : UInt8} (h : x ∈ written b) :
    isPlain x = true ∨ x = 0x25 ∨ x = 0x2B := by
  have hByte := b.toNat_lt
  rcases written_cases b with ⟨hPlain, hWritten⟩ | ⟨_, hWritten⟩ | hWritten
  · rw [hWritten, List.mem_singleton] at h
    exact .inl (h ▸ hPlain)
  · rw [hWritten, List.mem_singleton] at h
    exact .inr (.inr h)
  · simp only [hWritten, List.mem_cons, List.not_mem_nil, or_false] at h
    rcases h with rfl | rfl | rfl
    · exact .inr (.inl rfl)
    · exact .inl (isPlain_hexByte (by omega))
    · exact .inl (isPlain_hexByte (by omega))

/-- A plus sign that stands for a space. -/
def unplus (b : UInt8) : UInt8 :=
  if b = 0x2B then 0x20 else b

theorem unplus_of_isPlain {b : UInt8} (h : isPlain b = true) : unplus b = b :=
  if_neg fun hPlus => absurd (hPlus ▸ h) (by decide)

theorem percentDecode_unplus_written (b : UInt8) (rest : List UInt8) :
    percentDecode ((written b).map unplus ++ rest) = b :: percentDecode rest := by
  have hByte := b.toNat_lt
  rcases written_cases b with ⟨hPlain, hWritten⟩ | ⟨rfl, hWritten⟩ | hWritten
  · have hPercent : b ≠ 0x25 := fun hEq => absurd (hEq ▸ hPlain) (by decide)
    rw [hWritten, List.map_singleton, unplus_of_isPlain hPlain, List.singleton_append,
      percentDecode_cons_of_ne hPercent]
  · rw [hWritten]
    exact percentDecode_cons_of_ne (by decide) rest
  · have hHigh := unplus_of_isPlain (isPlain_hexByte (show b.toNat / 16 < 16 by omega))
    have hLow := unplus_of_isPlain (isPlain_hexByte (show b.toNat % 16 < 16 by omega))
    rw [hWritten, List.map_cons, List.map_cons, List.map_cons, List.map_nil, hHigh, hLow]
    exact percentDecode_code b rest

/-! ## Texts and pairs -/

def textBytes (s : String) : List UInt8 :=
  (Text.Utf8.encode s).flatMap written

def pairBytes (pair : String × String) : List UInt8 :=
  textBytes pair.1 ++ 0x3D :: textBytes pair.2

theorem flatMap_encodeText (s : String) : (encodeText s).flatMap encodeChar = textBytes s := by
  rw [encodeText, List.flatMap_assoc]
  rfl

theorem flatMap_encodePair (pair : String × String) :
    (encodePair pair).flatMap encodeChar = pairBytes pair := by
  have hEquals : encodeChar '=' = [0x3D] := rfl
  simp [encodePair, pairBytes, flatMap_encodeText, hEquals]

/-- What is neither kept nor a plus or percent sign is not written. -/
theorem not_mem_textBytes {mark : UInt8} (hMark : isPlain mark = false) (hPercent : mark ≠ 0x25)
    (hPlus : mark ≠ 0x2B) (s : String) : mark ∉ textBytes s := by
  intro hMem
  obtain ⟨b, _, hWritten⟩ := List.mem_flatMap.mp hMem
  rcases of_mem_written hWritten with hPlain | hEq | hEq
  · rw [hMark] at hPlain
    cases hPlain
  · exact hPercent hEq
  · exact hPlus hEq

theorem not_mem_pairBytes {mark : UInt8} (hMark : isPlain mark = false) (hPercent : mark ≠ 0x25)
    (hPlus : mark ≠ 0x2B) (hEquals : mark ≠ 0x3D) (pair : String × String) :
    mark ∉ pairBytes pair := by
  simp [pairBytes, not_mem_textBytes hMark hPercent hPlus, hEquals]

theorem percentDecode_unplus_flatMap (bytes : List UInt8) :
    percentDecode ((bytes.flatMap written).map unplus) = bytes := by
  induction bytes with
  | nil => rfl
  | cons b bytes ih =>
    rw [List.flatMap_cons, List.map_append, percentDecode_unplus_written, ih]

theorem decodeText_textBytes (s : String) : decodeText (textBytes s) = s := by
  change Text.Utf8.decodeLossy (percentDecode ((textBytes s).map unplus)) = s
  rw [textBytes, percentDecode_unplus_flatMap, Text.Utf8.decodeLossy_encode]

theorem decodePair_pairBytes (pair : String × String) : decodePair (pairBytes pair) = pair := by
  have hKey : ∀ b ∈ textBytes pair.1, (b != 0x3D) = true := fun b hMem =>
    bne_iff_ne.mpr (ne_of_mem_of_not_mem hMem
      (not_mem_textBytes (by decide) (by decide) (by decide) pair.1))
  have hName : (pairBytes pair).takeWhile (· != 0x3D) = textBytes pair.1 := by
    rw [pairBytes, List.takeWhile_append_of_pos hKey]
    simp
  have hValue : (pairBytes pair).dropWhile (· != 0x3D) = 0x3D :: textBytes pair.2 := by
    rw [pairBytes, List.dropWhile_append_of_pos hKey]
    simp
  rw [decodePair, hName, hValue, List.drop_one, List.tail_cons, decodeText_textBytes,
    decodeText_textBytes]

/-! ## Separators -/

section Split

variable {mark : UInt8} {part : List UInt8}

theorem splitOn_of_not_mem (h : mark ∉ part) : splitOn mark part = [part] := by
  induction part with
  | nil => rfl
  | cons b part ih =>
    obtain ⟨hNe, hPart⟩ := not_or.mp (mt List.mem_cons.mpr h)
    rw [splitOn, if_neg (Ne.symm hNe), ih hPart]

theorem splitOn_append_cons (h : mark ∉ part) (rest : List UInt8) :
    splitOn mark (part ++ mark :: rest) = part :: splitOn mark rest := by
  induction part with
  | nil => exact if_pos rfl
  | cons b part ih =>
    obtain ⟨hNe, hPart⟩ := not_or.mp (mt List.mem_cons.mpr h)
    rw [List.cons_append, splitOn, if_neg (Ne.symm hNe), ih hPart]

end Split

/-- The bytes of a query, pair by pair. -/
def bytes : Query → List UInt8
  | [] => []
  | [pair] => pairBytes pair
  | pair :: pair' :: q => pairBytes pair ++ 0x26 :: bytes (pair' :: q)

theorem encode_encode (q : Query) : Text.Utf8.encode q.encode = q.bytes := by
  have hAmpersand : encodeChar '&' = [0x26] := rfl
  rw [Text.Utf8.encode, encode, String.toList_ofList]
  induction q using bytes.induct with
  | case1 => rfl
  | case2 pair => simp [bytes, flatMap_encodePair]
  | case3 pair pair' q ih =>
    rw [bytes, ← ih]
    simp [flatMap_encodePair, hAmpersand]

theorem decode_encode (q : Query) : decode q.encode = q := by
  have hMark (pair : String × String) : 0x26 ∉ pairBytes pair :=
    not_mem_pairBytes (by decide) (by decide) (by decide) (by decide) pair
  have hFilled (pair : String × String) : (pairBytes pair).isEmpty = false := by
    simp [pairBytes]
  rw [decode, encode_encode]
  induction q using bytes.induct with
  | case1 => rfl
  | case2 pair => simp [bytes, splitOn_of_not_mem (hMark pair), hFilled, decodePair_pairBytes]
  | case3 pair pair' q ih =>
    rw [bytes, splitOn_append_cons (hMark pair), List.filter_cons_of_pos (by simp [hFilled]),
      List.map_cons, ih, decodePair_pairBytes]

theorem not_mem_bytes (q : Query) : 0x3F ∉ q.bytes := by
  have hPair (pair : String × String) : 0x3F ∉ pairBytes pair :=
    not_mem_pairBytes (by decide) (by decide) (by decide) (by decide) pair
  induction q using bytes.induct with
  | case1 => exact List.not_mem_nil
  | case2 pair => exact hPair pair
  | case3 pair pair' q ih => simp [bytes, hPair, ih]

theorem not_mem_encode (q : Query) : '?' ∉ q.encode.toList := by
  intro hMem
  have hByte : 0x3F ∈ Text.Utf8.encode q.encode :=
    List.mem_flatMap.mpr ⟨'?', hMem, List.mem_singleton_self _⟩
  rw [encode_encode] at hByte
  exact not_mem_bytes q hByte

end Query

/-! ## Paths with queries -/

section Build

variable {path path' : String} {q q' : Query}

/-- What stands after the path. -/
def queryPart (q : Query) : List Char :=
  if q.isEmpty then [] else '?' :: q.encode.toList

theorem toList_build (path : String) (q : Query) :
    (build path q).toList = path.toList ++ queryPart q := by
  unfold build queryPart
  split <;> simp

theorem build_of_ne_nil (h : q ≠ []) : build path q = path ++ "?" ++ q.encode :=
  if_neg (by simpa using h)

theorem queryPart_injective (h : queryPart q = queryPart q') : q = q' := by
  unfold queryPart at h
  split at h <;> split at h
  · simp_all
  · cases h
  · cases h
  · have hEncode : q.encode = q'.encode := String.toList_inj.mp (List.cons.inj h).2
    rw [← Query.decode_encode q, hEncode, Query.decode_encode]

theorem ne_mark_of_mem (hPath : '?' ∉ path.toList) : ∀ c ∈ path.toList, (c != '?') = true := by
  intro c hMem
  exact bne_iff_ne.mpr (ne_of_mem_of_not_mem hMem hPath)

theorem takeWhile_build (hPath : '?' ∉ path.toList) :
    (build path q).toList.takeWhile (· != '?') = path.toList := by
  rw [toList_build, List.takeWhile_append_of_pos (ne_mark_of_mem hPath)]
  unfold queryPart
  split <;> simp

theorem dropWhile_build (hPath : '?' ∉ path.toList) :
    (build path q).toList.dropWhile (· != '?') = queryPart q := by
  rw [toList_build, List.dropWhile_append_of_pos (ne_mark_of_mem hPath)]
  unfold queryPart
  split <;> simp

theorem eq_of_build_eq (hPath : '?' ∉ path.toList) (hPath' : '?' ∉ path'.toList)
    (h : build path q = build path' q') : path = path' ∧ q = q' := by
  constructor
  · apply String.toList_inj.mp
    rw [← takeWhile_build (q := q) hPath, h, takeWhile_build hPath']
  · apply queryPart_injective
    rw [← dropWhile_build hPath, h, dropWhile_build hPath']

end Build

/-- No pairs leave a path as it is. Any others stand after a question mark, the only one, in a text
that is read as exactly these pairs in their order. So neither the path nor any pair can be mistaken
for another one. -/
theorem build_lossless {path : String} (hPath : '?' ∉ path.toList) (q : Query) :
    (build path q = path ↔ q = []) ∧
      (q ≠ [] → ∃ text, build path q = path ++ "?" ++ text ∧ '?' ∉ text.toList ∧
        Query.decode text = q) ∧
      ∀ path' q', '?' ∉ path'.toList → build path q = build path' q' → path = path' ∧ q = q' := by
  refine ⟨?_, ?_, ?_⟩
  · constructor
    · intro hSame
      have hEmpty : build path q = build path [] := hSame
      exact (eq_of_build_eq hPath hPath hEmpty).2
    · rintro rfl
      rfl
  · intro hPairs
    exact ⟨q.encode, build_of_ne_nil hPairs, q.not_mem_encode, q.decode_encode⟩
  · intro path' q' hPath' hSame
    exact eq_of_build_eq hPath hPath' hSame

theorem build_lossless_marks :
    '?' ∉ "/p".toList ∧
      ∃ text, build "/p" [("a=", "b &c?"), ("", ""), ("a=", "%2B+")] = "/p" ++ "?" ++ text ∧
        '?' ∉ text.toList ∧
        Query.decode text = [("a=", "b &c?"), ("", ""), ("a=", "%2B+")] :=
  ⟨by decide, (build_lossless (by decide) _).2.1 (by decide)⟩

end EdgeApi.Uri
