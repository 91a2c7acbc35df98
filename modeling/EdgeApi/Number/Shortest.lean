import EdgeApi.Number.Binary64

/-!
# Shortest decimals

The fewest significant digits that read back as a given binary number, and among those the
nearest ones. The candidates on a grid of `n` digits are the two neighbours of the number on it.
-/

set_option autoImplicit false

namespace EdgeApi.Binary64

/-- Digits `d` with the power of ten `e` of the last digit: the value is `d * 10 ^ e`. -/
structure Decimal where
  digits : Nat
  exponent : Int
  deriving DecidableEq

/-- The magnitude as a ratio, in quarters of the last place: `(low, value, high, den)`, where the
open interval from `low / den` to `high / den` rounds to the number. -/
def bounds (x : Binary64) : Nat × Nat × Nat × Nat :=
  let m := x.significand
  let narrow := x.fraction = 0 ∧ 1 < x.biasedExponent
  let low := if narrow then 4 * m - 1 else 4 * m - 2
  let q := x.scale - 2
  if 0 ≤ q then
    let p := Nat.pow 2 q.toNat
    (low * p, 4 * m * p, (4 * m + 2) * p, 1)
  else (low, 4 * m, 4 * m + 2, Nat.pow 2 (-q).toNat)

def tenfoldsUpTo (den : Nat) : Nat → Nat → Nat
  | 0, _ => 0
  | fuel + 1, n => if den ≤ n then 0 else tenfoldsUpTo den fuel (n * 10) + 1

def leadingExponent (num den : Nat) : Int :=
  if den ≤ num then ((Nat.toDigits 10 (num / den)).length : Int) - 1
  else -(tenfoldsUpTo den 400 num : Int)

/-- A decimal on the grid of step `10 ^ e` that reads back as the number, the nearer one if both
neighbours do. -/
def onGrid (x : Binary64) (e : Int) : Option Decimal :=
  let (low, value, high, den) := x.bounds
  let up := if 0 ≤ e then 1 else Nat.pow 10 (-e).toNat
  let down := if 0 ≤ e then den * Nat.pow 10 e.toNat else den
  let inside (d : Nat) : Bool :=
    let n := d * down
    if x.significand % 2 = 0 then decide (low * up ≤ n ∧ n ≤ high * up)
    else decide (low * up < n ∧ n < high * up)
  let below := value * up / down
  let above := below + 1
  match inside below && below != 0, inside above with
  | true, true =>
    let toBelow := value * up - below * down
    let toAbove := above * down - value * up
    if toBelow < toAbove then some ⟨below, e⟩
    else if toAbove < toBelow then some ⟨above, e⟩
    else if below % 2 = 0 then some ⟨below, e⟩ else some ⟨above, e⟩
  | true, false => some ⟨below, e⟩
  | false, true => some ⟨above, e⟩
  | false, false => none

def searchGrid (x : Binary64) (lead : Int) : Nat → Nat → Decimal
  | 0, _ => ⟨0, 0⟩
  | fuel + 1, n =>
    match x.onGrid (lead - (n : Int)) with
    | some d => d
    | none => searchGrid x lead fuel (n + 1)

def shortest (x : Binary64) : Decimal :=
  let (_, value, _, den) := x.bounds
  searchGrid x (leadingExponent value den) 18 0

def trimZeros : Nat → Nat → Int → Decimal
  | 0, n, e => ⟨n, e⟩
  | fuel + 1, n, e => if n % 10 = 0 ∧ n ≠ 0 then trimZeros fuel (n / 10) (e + 1) else ⟨n, e⟩

def Decimal.reduce (d : Decimal) : Decimal :=
  trimZeros (Nat.log2 d.digits) d.digits d.exponent

end EdgeApi.Binary64
