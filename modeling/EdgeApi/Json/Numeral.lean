import EdgeApi.Json.Document

/-!
# Numerals

The numbers of a JSON text as they are written, and their values. A numeral with neither fraction
nor exponent that fits 64 bits is a whole number. All others are binary: the leading digits that fit
64 bits are scaled by powers of ten, each step rounded.
-/

set_option autoImplicit false

namespace EdgeApi

structure Numeral where
  negative : Bool
  whole : List Nat
  fraction : Option (List Nat)
  /-- Whether the exponent is negative, and its digits. -/
  exponent : Option (Bool × List Nat)
  deriving DecidableEq

namespace Numeral

def isDigit (b : UInt8) : Bool :=
  0x30 ≤ b && b ≤ 0x39

def spanDigits : List UInt8 → List Nat × List UInt8
  | [] => ([], [])
  | b :: rest =>
    if isDigit b then
      let (ds, r) := spanDigits rest
      ((b.toNat - 0x30) :: ds, r)
    else ([], b :: rest)

/-- A numeral breaks off: where the text ends a reader that keeps the number sees it truncated. -/
def breakAt : List UInt8 → Break
  | [] => ⟨.truncated, .malformed, .malformed⟩
  | _ :: _ => ⟨.malformed, .malformed, .malformed⟩

def someDigits (bytes : List UInt8) : Except Break (List Nat × List UInt8) :=
  match spanDigits bytes with
  | ([], rest) => .error (breakAt rest)
  | found => .ok found

def readWhole (bytes : List UInt8) : Except Break (List Nat × List UInt8) := do
  match ← someDigits bytes with
  | (0 :: _ :: _, _) => .error (breakAt bytes)
  | found => return found

def readFraction : List UInt8 → Except Break (Option (List Nat) × List UInt8)
  | 0x2E :: rest => do
    let (ds, rest) ← someDigits rest
    return (some ds, rest)
  | bytes => .ok (none, bytes)

def readExponent : List UInt8 → Except Break (Option (Bool × List Nat) × List UInt8)
  | b :: rest =>
    if b = 0x65 ∨ b = 0x45 then do
      let (negative, rest) := match rest with
        | 0x2B :: r => (false, r)
        | 0x2D :: r => (true, r)
        | r => (false, r)
      let (ds, rest) ← someDigits rest
      return (some (negative, ds), rest)
    else .ok (none, b :: rest)
  | [] => .ok (none, [])

def read (bytes : List UInt8) : Except Break (Numeral × List UInt8) := do
  let (negative, bytes) := match bytes with
    | 0x2D :: rest => (true, rest)
    | bytes => (false, bytes)
  let (whole, bytes) ← readWhole bytes
  let (fraction, bytes) ← readFraction bytes
  let (exponent, bytes) ← readExponent bytes
  return ({ negative, whole, fraction, exponent }, bytes)

/-- The leading digits that fit 64 bits and the number of those left over. -/
def gather (acc : Nat) : List Nat → Nat × Nat
  | [] => (acc, 0)
  | d :: ds => if acc * 10 + d < UInt64.size then gather (acc * 10 + d) ds else (acc, (d :: ds).length)

def powerOfTen (k : Nat) : Binary64 :=
  Binary64.ofNat (Nat.pow 10 k)

/-- Divides by `10 ^ 308` while the power of ten due is out of the range of the format, then once
more by the rest. -/
def scaleDown (x : Binary64) : Nat → Nat → Binary64
  | 0, _ => x
  | steps + 1, k =>
    if k ≤ 308 then x.div (powerOfTen k)
    else if x.isZero then x
    else scaleDown (x.div (powerOfTen 308)) steps (k - 308)

/-- `m * 10 ^ e` with rounded steps, `none` if it is out of range. -/
def scaled (m : Nat) (e : Int) : Option Binary64 :=
  let x := Binary64.ofNat m
  if e < 0 then some (scaleDown x 4 (-e).toNat)
  else if e ≤ 308 then
    let y := x.mul (powerOfTen e.toNat)
    if y.isInfinite then none else some y
  else if x.isZero then some x else none

def exponentValue (digits : List Nat) : Nat :=
  digits.foldl (fun n d => n * 10 + d) 0

def magnitude (n : Numeral) : Option Binary64 :=
  let (m, dropped) := gather 0 n.whole
  let fraction := n.fraction.getD []
  let (m, left) := gather m fraction
  let e : Int := (dropped : Int) - ((fraction.length - left : Nat) : Int)
  match n.exponent with
  | none => scaled m e
  | some (negative, digits) =>
    let k := exponentValue digits
    if 0x80000000 ≤ k then if m = 0 ∨ negative then some Binary64.zero else none
    else scaled m (if negative then e - k else e + k)

def value (n : Numeral) : Option Number :=
  let real : Option Number := n.magnitude.map fun x => .real (if n.negative then x.negate else x)
  if n.fraction.isSome ∨ n.exponent.isSome then real
  else
    match gather 0 n.whole with
    | (m, 0) =>
      if h : n.negative = false ∧ m < 0x10000000000000000 then some (.whole m ⟨by omega, by omega⟩)
      else if h : 0 < m ∧ m ≤ 0x8000000000000000 then some (.whole (-m) ⟨by omega, by omega⟩)
      else real
    | _ => real

end Numeral

end EdgeApi
