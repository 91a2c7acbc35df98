import EdgeApi.Uri.Domain

/-!
# Hosts

Domain names and addresses, and why a locator is none.
-/

set_option autoImplicit false

namespace EdgeApi.Uri

inductive LocatorFault where
  | relative
  | emptyHost
  | domain
  | port
  | ipv4
  | ipv6
  | domainCharacter
  deriving DecidableEq

namespace LocatorFault

def message : LocatorFault → String
  | .relative => "relative URL without a base"
  | .emptyHost => "empty host"
  | .domain => "invalid international domain name"
  | .port => "invalid port number"
  | .ipv4 => "invalid IPv4 address"
  | .ipv6 => "invalid IPv6 address"
  | .domainCharacter => "invalid domain character"

end LocatorFault

inductive Host where
  | name (text : String)
  | ipv4 (address : Nat)
  | ipv6 (pieces : List Nat)
  deriving DecidableEq

namespace Host

def digit? (base : Nat) (c : Char) : Option Nat :=
  let n := c.toNat
  let v := if 48 ≤ n ∧ n ≤ 57 then some (n - 48)
    else if 97 ≤ n ∧ n ≤ 102 then some (n - 87)
    else if 65 ≤ n ∧ n ≤ 70 then some (n - 55)
    else none
  v.filter (· < base)

def number? (base : Nat) (cs : List Char) : Option Nat :=
  cs.foldlM (fun n c => (digit? base c).map fun d => n * base + d) 0

/-- A part of an IPv4 address: hexadecimal after `0x`, octal after `0`, else decimal. -/
def ipv4Number? : List Char → Option Nat
  | [] => none
  | '0' :: 'x' :: rest => number? 16 rest
  | '0' :: 'X' :: rest => number? 16 rest
  | '0' :: c :: rest => number? 8 (c :: rest)
  | cs => number? 10 cs

/-- A name whose last label is a number must be an address. -/
def endsInNumber (cs : List Char) : Bool :=
  let last := match (Domain.labels cs).reverse with
    | [] :: [] => none
    | [] :: label :: _ => some label
    | label :: _ => some label
    | [] => none
  match last with
  | none => false
  | some label => (!label.isEmpty && label.all Char.isDigit) || (ipv4Number? label).isSome

def ipv4? (cs : List Char) : Option Nat := do
  let parts := Domain.labels cs
  let parts := if parts.getLast? = some [] then parts.dropLast else parts
  if 4 < parts.length then none
  let numbers ← parts.mapM ipv4Number?
  let last ← numbers.getLast?
  let front := numbers.dropLast
  if Nat.pow 256 (4 - front.length) ≤ last ∨ front.any (255 < ·) then none
  return front.zipIdx.foldl (fun sum (n, i) => sum + n * Nat.pow 256 (3 - i)) last

def splitAll (mark : Char) : List Char → List (List Char)
  | [] => [[]]
  | c :: rest =>
    if c = mark then [] :: splitAll mark rest
    else
      match splitAll mark rest with
      | part :: parts => (c :: part) :: parts
      | [] => [[c]]

def piece? (cs : List Char) : Option Nat :=
  if cs.isEmpty ∨ 4 < cs.length then none else number? 16 cs

/-- A byte of a dotted tail, without leading zeros. -/
def octet? : List Char → Option Nat
  | [] => none
  | '0' :: _ :: _ => none
  | cs => (number? 10 cs).filter (· ≤ 255)

/-- Colon-separated pieces; only the last may be dotted. -/
def pieces? (cs : List Char) : Option (List Nat) :=
  if cs.isEmpty then some []
  else
    let parts := splitAll ':' cs
    match parts.getLast? with
    | none => none
    | some last =>
      if last.contains '.' then do
        let front ← parts.dropLast.mapM piece?
        match ← (Domain.labels last).mapM octet? with
        | [a, b, c, d] => return front ++ [a * 256 + b, c * 256 + d]
        | _ => none
      else parts.mapM piece?

def splitCompressed : List Char → Option (List Char × List Char)
  | [] => none
  | ':' :: ':' :: rest => some ([], rest)
  | c :: rest => (splitCompressed rest).map fun (a, b) => (c :: a, b)

def ipv6? (cs : List Char) : Option (List Nat) := do
  match splitCompressed cs with
  | none =>
    let pieces ← pieces? cs
    if pieces.length = 8 then return pieces else none
  | some (before, after) =>
    if before.contains '.' then none
    let front ← pieces? before
    let back ← pieces? after
    if front.length + back.length ≤ 7 then
      return front ++ List.replicate (8 - front.length - back.length) 0 ++ back
    else none

def bracketed (cs : List Char) : Except LocatorFault Host :=
  if cs.getLast? = some ']' then
    match ipv6? cs.dropLast with
    | some pieces => .ok (.ipv6 pieces)
    | none => .error .ipv6
  else .error .ipv6

def parse : List Char → Except LocatorFault Host
  | '[' :: rest => bracketed rest
  | cs =>
    match Domain.normalize cs with
    | none => .error .domain
    | some [] => .error .emptyHost
    | some mapped =>
      if endsInNumber mapped then
        match ipv4? mapped with
        | some address => .ok (.ipv4 address)
        | none => .error .ipv4
      else .ok (.name (String.ofList mapped))

def parseOther : List Char → Except LocatorFault Host
  | '[' :: rest => bracketed rest
  | cs =>
    if cs.any fun c => "\x00\t\n\r #/:<>?@[\\]^|".toList.contains c then .error .domainCharacter
    else .ok (.name (String.ofList cs))

def render : Host → String
  | .name s => s
  | .ipv4 n =>
    ".".intercalate ([n / 0x1000000, n / 0x10000 % 256, n / 256 % 256, n % 256].map toString)
  | .ipv6 pieces =>
    "[" ++ ":".intercalate (pieces.map fun n => String.ofList (Nat.toDigits 16 n)) ++ "]"

end Host

end EdgeApi.Uri
