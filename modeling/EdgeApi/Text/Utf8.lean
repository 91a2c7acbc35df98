/-!
# UTF-8

Characters and their bytes, in both directions. Reading goes through a small state machine that
reports every ill-formed stretch once, so the strict and the lenient reader share one scan.
-/

set_option autoImplicit false

namespace EdgeApi.Text.Utf8

def encodeChar (c : Char) : List UInt8 :=
  let n := c.toNat
  if n < 0x80 then [UInt8.ofNat n]
  else if n < 0x800 then [UInt8.ofNat (0xC0 + n / 64), UInt8.ofNat (0x80 + n % 64)]
  else if n < 0x10000 then
    [UInt8.ofNat (0xE0 + n / 4096), UInt8.ofNat (0x80 + n / 64 % 64), UInt8.ofNat (0x80 + n % 64)]
  else
    [UInt8.ofNat (0xF0 + n / 262144), UInt8.ofNat (0x80 + n / 4096 % 64),
      UInt8.ofNat (0x80 + n / 64 % 64), UInt8.ofNat (0x80 + n % 64)]

def encode (s : String) : List UInt8 :=
  s.toList.flatMap encodeChar

/-- Between characters, or inside one: how many bytes are still due, the value so far and the
bounds of the next byte. -/
inductive State where
  | idle
  | inside (due value low high : Nat)

def lead (b : Nat) : Option (Option Char) × State :=
  if b < 0x80 then (some (some (Char.ofNat b)), .idle)
  else if b < 0xC2 then (some none, .idle)
  else if b < 0xE0 then (none, .inside 1 (b - 0xC0) 0x80 0xC0)
  else if b < 0xF0 then
    (none, .inside 2 (b - 0xE0) (if b = 0xE0 then 0xA0 else 0x80) (if b = 0xED then 0xA0 else 0xC0))
  else if b < 0xF5 then
    (none, .inside 3 (b - 0xF0) (if b = 0xF0 then 0x90 else 0x80) (if b = 0xF4 then 0x90 else 0xC0))
  else (some none, .idle)

/-- The characters of a byte string, with `none` for each longest ill-formed stretch. -/
def scan : State → List UInt8 → List (Option Char)
  | .idle, [] => []
  | .inside _ _ _ _, [] => [none]
  | .idle, b :: rest =>
    match lead b.toNat with
    | (some c, state) => c :: scan state rest
    | (none, state) => scan state rest
  | .inside due value low high, b :: rest =>
    if low ≤ b.toNat ∧ b.toNat < high then
      let value := value * 64 + (b.toNat - 0x80)
      if due ≤ 1 then some (Char.ofNat value) :: scan .idle rest
      else scan (.inside (due - 1) value 0x80 0xC0) rest
    else
      none :: match lead b.toNat with
        | (some c, state) => c :: scan state rest
        | (none, state) => scan state rest

def decode? (bytes : List UInt8) : Option String :=
  ((scan .idle bytes).mapM id).map String.ofList

def decodeLossy (bytes : List UInt8) : String :=
  String.ofList ((scan .idle bytes).map fun c => c.getD '\uFFFD')

end EdgeApi.Text.Utf8
