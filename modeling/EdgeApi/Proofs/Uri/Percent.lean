import EdgeApi.Proofs.Text.Utf8
import EdgeApi.Uri.Percent

/-!
# Percent encoding there and back

A code written for a byte is read back as that byte, and every other byte but the percent sign stands
for itself.
-/

set_option autoImplicit false

namespace EdgeApi.Uri

open Text.Utf8 (encodeChar)

/-- The byte of a hexadecimal digit. -/
def hexByte (n : Nat) : UInt8 :=
  if n < 10 then UInt8.ofNat (48 + n) else UInt8.ofNat (55 + n)

theorem encodeChar_upperHex {n : Nat} (h : n < 16) : encodeChar (upperHex n) = [hexByte n] := by
  revert n
  decide

theorem hexValue_hexByte {n : Nat} (h : n < 16) : hexValue (hexByte n) = some n := by
  revert n
  decide

theorem flatMap_percentByte (b : UInt8) :
    (percentByte b).flatMap encodeChar = [0x25, hexByte (b.toNat / 16), hexByte (b.toNat % 16)] := by
  have hByte := b.toNat_lt
  have hPercent : encodeChar '%' = [0x25] := rfl
  simp only [percentByte, List.flatMap_cons, List.flatMap_nil, hPercent,
    encodeChar_upperHex (show b.toNat / 16 < 16 by omega),
    encodeChar_upperHex (show b.toNat % 16 < 16 by omega), List.append_nil, List.singleton_append]

theorem percentDecode_code (b : UInt8) (rest : List UInt8) :
    percentDecode (0x25 :: hexByte (b.toNat / 16) :: hexByte (b.toNat % 16) :: rest) =
      b :: percentDecode rest := by
  have hByte := b.toNat_lt
  have hJoin : b.toNat / 16 * 16 + b.toNat % 16 = b.toNat := Nat.div_add_mod' _ _
  rw [percentDecode, hexValue_hexByte (by omega), hexValue_hexByte (by omega)]
  simp only [hJoin, UInt8.ofNat_toNat]

theorem percentDecode_cons_of_ne {b : UInt8} (h : b ≠ 0x25) (rest : List UInt8) :
    percentDecode (b :: rest) = b :: percentDecode rest := by
  rw [percentDecode.eq_def]
  split
  · rename_i hEq
    exact absurd (List.cons.inj hEq).1 h
  · rename_i hEq
    rw [(List.cons.inj hEq).1, (List.cons.inj hEq).2]
  · rename_i hEq
    cases hEq

end EdgeApi.Uri
