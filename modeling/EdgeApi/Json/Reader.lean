import EdgeApi.Json.Numeral
import EdgeApi.Text.Utf8

/-!
# Reading JSON texts

From bytes to documents. Every function consumes a front part of the bytes and returns the rest.
-/

set_option autoImplicit false

namespace EdgeApi.Document

def isSpace (b : UInt8) : Bool :=
  b == 0x20 || b == 0x0A || b == 0x09 || b == 0x0D

def dropSpace : List UInt8 → List UInt8
  | [] => []
  | b :: rest => if isSpace b then dropSpace rest else b :: rest

def readWord (word : List UInt8) (value : Document) : List UInt8 → Document × List UInt8 :=
  match word with
  | [] => fun bytes => (value, bytes)
  | w :: word => fun
    | [] => (.broken ⟨.truncated, .truncated, .malformed⟩, [])
    | b :: rest => if b = w then readWord word value rest else (.broken .stray, [])

def hexValue (b : UInt8) : Option Nat :=
  let n := b.toNat
  if 0x30 ≤ n ∧ n ≤ 0x39 then some (n - 0x30)
  else if 0x41 ≤ n ∧ n ≤ 0x46 then some (n - 0x37)
  else if 0x61 ≤ n ∧ n ≤ 0x66 then some (n - 0x57)
  else none

def hexUnit (a b c d : UInt8) : Option Nat := do
  return (((← hexValue a) * 16 + (← hexValue b)) * 16 + (← hexValue c)) * 16 + (← hexValue d)

def escapedByte (b : UInt8) : Option UInt8 :=
  if b = 0x22 ∨ b = 0x5C ∨ b = 0x2F then some b
  else if b = 0x62 then some 0x08
  else if b = 0x66 then some 0x0C
  else if b = 0x6E then some 0x0A
  else if b = 0x72 then some 0x0D
  else if b = 0x74 then some 0x09
  else none

/-- What a string literal holds so far: its bytes in reverse, whether a code unit stands alone, and
a leading surrogate that waits for its partner. -/
structure Pending where
  bytes : List UInt8
  alone : Bool
  leading : Option Nat

namespace Pending

def empty : Pending := ⟨[], false, none⟩

def push (p : Pending) (b : UInt8) : Pending :=
  { bytes := b :: p.bytes, alone := p.alone || p.leading.isSome, leading := none }

def pushChar (p : Pending) (n : Nat) : Pending :=
  { p with bytes := (Text.Utf8.encodeChar (Char.ofNat n)).reverse ++ p.bytes, leading := none }

def pushUnit (p : Pending) (n : Nat) : Pending :=
  match p.leading with
  | some h =>
    if 0xDC00 ≤ n ∧ n ≤ 0xDFFF then p.pushChar (0x10000 + (h - 0xD800) * 0x400 + (n - 0xDC00))
    else { p with alone := true, leading := none }
  | none =>
    if 0xDC00 ≤ n ∧ n ≤ 0xDFFF then { p with alone := true }
    else if 0xD800 ≤ n ∧ n ≤ 0xDBFF then { p with leading := some n }
    else p.pushChar n

def finish (p : Pending) : Option String :=
  if p.alone || p.leading.isSome then none else Text.Utf8.decode? p.bytes.reverse

def cut (p : Pending) : Break :=
  let kept := if p.alone then .malformed else .truncated
  ⟨kept, .truncated, kept⟩

end Pending

def readText (p : Pending) : List UInt8 → Except Break (Option String × List UInt8)
  | [] => .error p.cut
  | 0x5C :: 0x75 :: a :: b :: c :: d :: rest =>
    match hexUnit a b c d with
    | some n => readText (p.pushUnit n) rest
    | none => .error .stray
  | 0x5C :: 0x75 :: _ => .error p.cut
  | 0x5C :: b :: rest =>
    match escapedByte b with
    | some e => readText (p.push e) rest
    | none => .error .stray
  | [0x5C] => .error p.cut
  | b :: rest =>
    if b = 0x22 then .ok (p.finish, rest)
    else if b < 0x20 then .error .stray
    else readText (p.push b) rest

def readColon : List UInt8 → Except Break (List UInt8)
  | [] => .error .missing
  | b :: rest => if b = 0x3A then .ok rest else .error .stray

mutual

/-- Reads a value; `fuel` bounds the steps. -/
def readValue : Nat → List UInt8 → Document × List UInt8
  | 0, _ => (.broken .stray, [])
  | fuel + 1, bytes =>
    match dropSpace bytes with
    | [] => (.broken .missing, [])
    | b :: rest =>
      if b = 0x7B then
        let (members, rest) := readMembers fuel true rest
        (.object members, rest)
      else if b = 0x5B then
        let (items, rest) := readItems fuel true rest
        (.list items, rest)
      else if b = 0x22 then
        match readText .empty rest with
        | .ok (s, rest) => (.text s, rest)
        | .error e => (.broken e, [])
      else if b = 0x6E then readWord [0x75, 0x6C, 0x6C] .null rest
      else if b = 0x74 then readWord [0x72, 0x75, 0x65] (.bool true) rest
      else if b = 0x66 then readWord [0x61, 0x6C, 0x73, 0x65] (.bool false) rest
      else if b = 0x2D || Numeral.isDigit b then
        match Numeral.read (b :: rest) with
        | .ok (n, rest) => (.number n.value, rest)
        | .error e => (.broken e, [])
      else (.broken .stray, [])

/-- Reads the items after an opening bracket, or after one of them. -/
def readItems : Nat → Bool → List UInt8 → Items × List UInt8
  | 0, _, _ => (.broken .stray, [])
  | fuel + 1, first, bytes =>
    match dropSpace bytes with
    | [] => (.broken .missing, [])
    | b :: rest =>
      if b = 0x5D then (.nil, rest)
      else if first then
        let (head, rest) := readValue fuel (b :: rest)
        let (tail, rest) := readItems fuel false rest
        (.cons head tail, rest)
      else if b = 0x2C then
        let (head, rest) := readValue fuel rest
        let (tail, rest) := readItems fuel false rest
        (.cons head tail, rest)
      else (.broken .stray, [])

def readMembers : Nat → Bool → List UInt8 → Members × List UInt8
  | 0, _, _ => (.broken .stray, [])
  | fuel + 1, first, bytes =>
    match dropSpace bytes with
    | [] => (.broken .missing, [])
    | b :: rest =>
      if b = 0x7D then (.nil, rest)
      else if first || b = 0x2C then
        let bytes := if first then b :: rest else dropSpace rest
        match bytes with
        | 0x22 :: rest =>
          match readText .empty rest with
          | .error e => (.broken e, [])
          | .ok (name, rest) =>
            match readColon (dropSpace rest) with
            | .error e => (.cons name (.broken e) .nil, [])
            | .ok rest =>
              let (value, rest) := readValue fuel rest
              let (tail, rest) := readMembers fuel false rest
              (.cons name value tail, rest)
        | bytes => (.nameless (readValue fuel bytes).1, [])
      else (.broken .stray, [])

end

structure Reading where
  root : Document
  trailing : Bool
  deriving DecidableEq

def read (bytes : List UInt8) : Reading :=
  let (root, rest) := readValue (2 * bytes.length + 2) bytes
  { root, trailing := !(dropSpace rest).isEmpty }

end EdgeApi.Document

namespace EdgeApi.Json

def parse (bytes : List UInt8) : Except Fault Json := do
  let reading := Document.read bytes
  let value ← reading.root.toJson .text
  if reading.trailing then .error .malformed else return value

end EdgeApi.Json
