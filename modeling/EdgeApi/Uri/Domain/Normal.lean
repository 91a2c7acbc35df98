import EdgeApi.Text.CombiningClass
import EdgeApi.Uri.Domain.Compositions

/-!
# Normal form

Of the ways to write a text with bases and marks, the one with composed characters: everything is
taken apart, marks of one base are sorted by their classes, and what can be composed is composed.
Syllables of three letters are composed by arithmetic.
-/

set_option autoImplicit false

namespace EdgeApi.Uri.Domain

/-- The two characters that a syllable is composed of: two letters, or a syllable and a letter. -/
def splitSyllable (c : Char) : Option (Char × Char) :=
  let n := c.toNat
  if 0xAC00 ≤ n ∧ n < 0xD7A4 then
    let i := n - 0xAC00
    if i % 28 = 0 then some (Char.ofNat (0x1100 + i / 588), Char.ofNat (0x1161 + i % 588 / 28))
    else some (Char.ofNat (n - i % 28), Char.ofNat (0x11A7 + i % 28))
  else none

def joinSyllable (base next : Char) : Option Char :=
  let b := base.toNat
  let n := next.toNat
  if 0x1100 ≤ b ∧ b < 0x1113 ∧ 0x1161 ≤ n ∧ n < 0x1176 then
    some (Char.ofNat (0xAC00 + (b - 0x1100) * 588 + (n - 0x1161) * 28))
  else if 0xAC00 ≤ b ∧ b < 0xD7A4 ∧ (b - 0xAC00) % 28 = 0 ∧ 0x11A8 ≤ n ∧ n < 0x11C3 then
    some (Char.ofNat (b + (n - 0x11A7)))
  else none

def parts? (c : Char) : Option (Char × Char) :=
  (splitSyllable c).or <|
    (compositions.find? fun r => r.1 == c.toNat).map fun r => (Char.ofNat r.2.1, Char.ofNat r.2.2)

def composite? (base mark : Char) : Option Char :=
  (joinSyllable base mark).or <|
    (compositions.find? fun r => r.2.1 == base.toNat && r.2.2 == mark.toNat).map fun r =>
      Char.ofNat r.1

/-- Takes a character apart. Bases are composed of others at most three times. -/
def takeApart : Nat → Char → List Char
  | 0, c => [c]
  | depth + 1, c =>
    match parts? c with
    | some (base, mark) => takeApart depth base ++ [mark]
    | none => [c]

/-- Puts a mark behind marks of its own or a lower class; the text is in reverse. -/
def placeMark (c : Char) : List Char → List Char
  | [] => [c]
  | d :: before =>
    if Text.combiningClass c < Text.combiningClass d then d :: placeMark c before
    else c :: d :: before

def sortMarks (before : List Char) : List Char → List Char
  | [] => before.reverse
  | c :: rest =>
    sortMarks (if Text.combiningClass c = 0 then c :: before else placeMark c before) rest

/-- Whether the latest mark keeps a character from its base. -/
def isBlocked (marks : List Char) (c : Char) : Bool :=
  marks.head?.any fun m => Text.combiningClass c ≤ Text.combiningClass m

def composeFrom (base : Char) (marks : List Char) : List Char → List Char
  | [] => base :: marks.reverse
  | c :: rest =>
    match if isBlocked marks c then none else composite? base c with
    | some composed => composeFrom composed marks rest
    | none =>
      if Text.combiningClass c = 0 then base :: marks.reverse ++ composeFrom c [] rest
      else composeFrom base (c :: marks) rest

def compose : List Char → List Char
  | [] => []
  | c :: rest => if Text.combiningClass c = 0 then composeFrom c [] rest else c :: compose rest

def isAscii (cs : List Char) : Bool :=
  cs.all fun c => c.toNat < 0x80

def normalForm (cs : List Char) : List Char :=
  if isAscii cs then cs else compose (sortMarks [] (cs.flatMap (takeApart 4)))

end EdgeApi.Uri.Domain
