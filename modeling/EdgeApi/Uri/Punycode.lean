/-!
# Encoded labels

Texts as ASCII letters and digits: first the ASCII characters of the text, then, after a hyphen, for
each other character in the order of code points how far it lies from the one before. Distances are
written with digits of base 36, the lowest first, with thresholds that adapt to what was written.
-/

set_option autoImplicit false

namespace EdgeApi.Uri.Punycode

def digitValue (c : Char) : Option Nat :=
  if 'a' ≤ c ∧ c ≤ 'z' then some (c.toNat - 97)
  else if '0' ≤ c ∧ c ≤ '9' then some (c.toNat - 22)
  else none

def digit (n : Nat) : Char :=
  if n < 26 then Char.ofNat (97 + n) else Char.ofNat (22 + n)

def threshold (k bias : Nat) : Nat :=
  if k ≤ bias then 1 else if bias + 26 ≤ k then 26 else k - bias

def adaptSteps : Nat → Nat → Nat → Nat
  | 0, _, k => k
  | fuel + 1, delta, k =>
    if 455 < delta then adaptSteps fuel (delta / 35) (k + 36) else k + 36 * delta / (delta + 38)

/-- The bias after a distance, when `count` characters stand. -/
def adapt (delta count : Nat) (first : Bool) : Nat :=
  let d := if first then delta / 700 else delta / 2
  adaptSteps (Nat.log2 d + 1) (d + d / count) 0

def readDelta (bias : Nat) : List Char → Nat → Nat → Nat → Option (Nat × List Char)
  | [], _, _, _ => none
  | c :: rest, k, weight, sum =>
    match digitValue c with
    | none => none
    | some d =>
      let sum := sum + d * weight
      let t := threshold k bias
      if UInt32.size ≤ sum then none
      else if d < t then some (sum, rest)
      else if UInt32.size ≤ weight * (36 - t) then none
      else readDelta bias rest (k + 36) (weight * (36 - t)) sum

def insertAt (c : Char) : Nat → List Char → List Char
  | 0, cs => c :: cs
  | _ + 1, [] => [c]
  | i + 1, d :: cs => d :: insertAt c i cs

/-- Where the next character goes: its least code point, its least place, and the bias. -/
structure Cursor where
  code : Nat := 0x80
  place : Nat := 0
  bias : Nat := 72

/-- Puts the characters in that the distances tell of. Every distance takes a digit at least, so the
digits bound the steps. -/
def insertAll : Nat → List Char → Cursor → List Char → Option (List Char)
  | _, [], _, text => some text
  | 0, _ :: _, _, _ => none
  | fuel + 1, digits, here, text =>
    match readDelta here.bias digits 36 1 here.place with
    | none => none
    | some (sum, rest) =>
      let count := text.length + 1
      let code := here.code + sum / count
      if code.isValidChar then
        insertAll fuel rest
          { code
            place := sum % count + 1
            bias := adapt (sum - here.place) count (here.place == 0) }
          (insertAt (Char.ofNat code) (sum % count) text)
      else none

def decode (cs : List Char) : Option (List Char) :=
  let digits := (cs.reverse.takeWhile (· != '-')).reverse
  insertAll digits.length digits {} (cs.take (cs.length - digits.length - 1))

def writeDelta (bias k n : Nat) : List Char :=
  let t := threshold k bias
  if n < t then [digit n]
  else digit (t + (n - t) % (36 - t)) :: writeDelta bias (k + 36) ((n - t) / (36 - t))
termination_by n
decreasing_by
  have ht : 1 ≤ threshold k bias := by unfold threshold; grind
  calc (n - threshold k bias) / (36 - threshold k bias)
      ≤ n - threshold k bias := Nat.div_le_self _ _
    _ < n := by omega

/-- What has been written, and the distance since. -/
structure Writing where
  digits : List Char := []
  delta : Nat := 0
  bias : Nat := 72
  count : Nat
  first : Bool := true

def Writing.pass (code : Nat) (w : Writing) (c : Char) : Writing :=
  if c.toNat < code then { w with delta := w.delta + 1 }
  else if c.toNat = code then
    { digits := w.digits ++ writeDelta w.bias 36 w.delta
      delta := 0
      bias := adapt w.delta (w.count + 1) w.first
      count := w.count + 1
      first := false }
  else w

def writeAll (text : List Char) : List Nat → Nat → Writing → List Char
  | [], _, w => w.digits
  | code :: rest, least, w =>
    let w := { w with delta := w.delta + (code - least) * (w.count + 1) }
    let w := text.foldl (Writing.pass code) w
    writeAll text rest (code + 1) { w with delta := w.delta + 1 }

def insertCode (n : Nat) : List Nat → List Nat
  | [] => [n]
  | m :: rest =>
    if n < m then n :: m :: rest else if n = m then m :: rest else m :: insertCode n rest

def encode (text : List Char) : List Char :=
  let plain := text.filter fun c => c.toNat < 0x80
  let others := text.filter fun c => 0x80 ≤ c.toNat
  let codes := others.foldr (fun c codes => insertCode c.toNat codes) []
  (if plain.isEmpty then [] else plain ++ ['-']) ++
    writeAll text codes 0x80 { count := plain.length }

end EdgeApi.Uri.Punycode
