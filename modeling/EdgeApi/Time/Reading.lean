import EdgeApi.Text.Blank
import EdgeApi.Time.Timestamp

/-!
# Reading timestamps

A date and a time of day with an offset. Blanks may stand around the fields, fields may be short,
and years of more than four digits have a sign.
-/

set_option autoImplicit false

namespace EdgeApi.Timestamp

def dropBlanks (cs : List Char) : List Char :=
  cs.dropWhile Text.isBlank

def digitValue? (c : Char) : Option Nat :=
  if '0' ≤ c ∧ c ≤ '9' then some (c.toNat - 48) else none

/-- Continues a number by at most `limit` digits; gives the number, how many digits there were and
the rest. -/
def takeDigits : Nat → Nat → List Char → Nat × Nat × List Char
  | 0, n, cs => (n, 0, cs)
  | _ + 1, n, [] => (n, 0, [])
  | limit + 1, n, c :: cs =>
    match digitValue? c with
    | some d =>
      let (m, count, rest) := takeDigits limit (n * 10 + d) cs
      (m, count + 1, rest)
    | none => (n, 0, c :: cs)

def readDigits (limit : Nat) (cs : List Char) : Option (Nat × List Char) :=
  match takeDigits limit 0 cs with
  | (_, 0, _) => none
  | (n, _, rest) => some (n, rest)

def readField (cs : List Char) : Option (Nat × List Char) :=
  readDigits 2 (dropBlanks cs)

def readYear (cs : List Char) : Option (Int × List Char) :=
  match dropBlanks cs with
  | '-' :: rest => (readDigits rest.length rest).map fun (n, r) => (-(n : Int), r)
  | '+' :: rest => (readDigits rest.length rest).map fun (n, r) => ((n : Int), r)
  | cs => (readDigits 4 cs).map fun (n, r) => ((n : Int), r)

def readMark (mark : Char) (cs : List Char) : Option (List Char) :=
  match dropBlanks cs with
  | c :: rest => if c = mark then some rest else none
  | [] => none

/-- The nanoseconds after a point; digits past the ninth are dropped. -/
def readFraction : List Char → Option (Nat × List Char)
  | '.' :: cs =>
    match takeDigits 9 0 cs with
    | (_, 0, _) => none
    | (n, count, rest) => some (n * Nat.pow 10 (9 - count), rest.dropWhile Char.isDigit)
  | cs => some (0, cs)

def readPair : List Char → Option (Nat × List Char)
  | a :: b :: rest => do return ((← digitValue? a) * 10 + (← digitValue? b), rest)
  | _ => none

def readOffset (cs : List Char) : Option (Int × List Char) :=
  match cs with
  | c :: rest =>
    if c = 'Z' ∨ c = 'z' then some (0, rest)
    else
      match cs with
      | u :: t :: z :: rest =>
        if (u = 'U' ∨ u = 'u') ∧ (t = 'T' ∨ t = 't') ∧ (z = 'C' ∨ z = 'c') then some (0, rest)
        else signed c (t :: z :: rest)
      | _ => signed c rest
  | [] => none
where
  signed (sign : Char) (cs : List Char) : Option (Int × List Char) := do
    let negative := sign = '-' ∨ sign = '\u2212'
    if ¬ negative ∧ sign ≠ '+' then none
    let (hours, cs) ← readPair cs
    let (minutes, cs) ← readPair (cs.dropWhile fun c => c == ':' || Text.isBlank c)
    if 59 < minutes ∨ 23 < hours then none
    let total : Int := hours * 60 + minutes
    return (if negative then -total else total, cs)

def ofLocal (date : Date) (hour minute second nano : Nat) (offset : Int) : Option Timestamp :=
  let total : Int := hour * 60 + minute - offset
  let date' := if total < 0 then date.previous else if 1440 ≤ total then date.next else date
  let clock := (total % 1440).toNat
  if date.Valid ∧ hour < 24 ∧ minute < 60 then
    if h : date'.Valid ∧ clock / 60 < 24 ∧ clock % 60 < 60 ∧ second ≤ 60 ∧ nano < 1000000000 then
      some ⟨date', clock / 60, clock % 60, second, nano, h⟩
    else none
  else none

def parse (s : String) : Option Timestamp := do
  let (year, cs) ← readYear s.toList
  let cs ← readMark '-' cs
  let (month, cs) ← readField cs
  let cs ← readMark '-' cs
  let (day, cs) ← readField cs
  let cs ← match cs with
    | c :: rest => if c = 'T' ∨ c = 't' ∨ c = ' ' then some rest else none
    | [] => none
  let (hour, cs) ← readField cs
  let cs ← readMark ':' cs
  let (minute, cs) ← readField cs
  let cs ← readMark ':' cs
  let (second, cs) ← readField cs
  let (nano, cs) ← readFraction cs
  let (offset, cs) ← readOffset (dropBlanks cs)
  if (dropBlanks cs).isEmpty then ofLocal ⟨year, month, day⟩ hour minute second nano offset
  else none

end EdgeApi.Timestamp
