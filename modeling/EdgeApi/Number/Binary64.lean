/-!
# Binary floating point

Numbers of the IEEE binary64 format, held as their bits, with rounding to nearest of exact
ratios. Products and quotients round the exact result once.
-/

set_option autoImplicit false

namespace EdgeApi

structure Binary64 where
  bits : UInt64
  deriving DecidableEq

namespace Binary64

def negative (x : Binary64) : Bool :=
  decide (0x8000000000000000 ≤ x.bits.toNat)

def biasedExponent (x : Binary64) : Nat :=
  x.bits.toNat / 0x10000000000000 % 0x800

def fraction (x : Binary64) : Nat :=
  x.bits.toNat % 0x10000000000000

def isInfinite (x : Binary64) : Bool :=
  x.biasedExponent == 2047

def isZero (x : Binary64) : Bool :=
  x.bits.toNat % 0x8000000000000000 == 0

/-- The whole number `m` of the magnitude `m * 2 ^ x.scale`. -/
def significand (x : Binary64) : Nat :=
  if x.biasedExponent = 0 then x.fraction else 0x10000000000000 + x.fraction

def scale (x : Binary64) : Int :=
  if x.biasedExponent = 0 then -1074 else (x.biasedExponent : Int) - 1075

def negate (x : Binary64) : Binary64 :=
  ⟨x.bits ^^^ 0x8000000000000000⟩

/-- The quotient rounded to nearest, a half to the even neighbour. -/
def roundDiv (num den : Nat) : Nat :=
  let q := num / den
  let r := num % den
  if 2 * r < den then q
  else if den < 2 * r then q + 1
  else if q % 2 = 0 then q else q + 1

def zero : Binary64 := ⟨0⟩

def infinity : Binary64 := ⟨0x7FF0000000000000⟩

/-- The number nearest to `num / den`. -/
def ofRatio (num den : Nat) : Binary64 :=
  if num = 0 then zero
  else
    let guess : Int := (Nat.log2 num : Int) - (Nat.log2 den : Int) - 53
    let at_ (q : Int) : Nat × Nat :=
      if 0 ≤ q then (num, den * Nat.pow 2 q.toNat) else (num * Nat.pow 2 (-q).toNat, den)
    let wide := at_ guess
    let exact := if wide.1 / wide.2 < 0x20000000000000 then guess else guess + 1
    let q := max exact (-1074)
    let ratio := at_ q
    let m := roundDiv ratio.1 ratio.2
    let bits := if m < 0x10000000000000 then m else m + (q + 1074).toNat * 0x10000000000000
    if bits < 0x7FF0000000000000 then ⟨UInt64.ofNat bits⟩ else infinity

def ofNat (n : Nat) : Binary64 :=
  ofRatio n 1

def mul (x y : Binary64) : Binary64 :=
  let q := x.scale + y.scale
  let m := x.significand * y.significand
  if 0 ≤ q then ofRatio (m * Nat.pow 2 q.toNat) 1 else ofRatio m (Nat.pow 2 (-q).toNat)

def div (x y : Binary64) : Binary64 :=
  let q := x.scale - y.scale
  if 0 ≤ q then ofRatio (x.significand * Nat.pow 2 q.toNat) y.significand
  else ofRatio x.significand (y.significand * Nat.pow 2 (-q).toNat)

end Binary64

end EdgeApi
