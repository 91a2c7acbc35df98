import EdgeApi.Uri.Domain.Letters
import EdgeApi.Uri.Domain.Refused
import EdgeApi.Uri.Domain.Shifts
import EdgeApi.Uri.Domain.Words

/-!
# Characters of domain names

What a character stands for in a domain name: small letters for capitals, plain forms for compatible
ones, nothing for some, itself for the rest that is not refused.
-/

set_option autoImplicit false

namespace EdgeApi.Uri.Domain

/-- The form of a character in one of the runs that list their forms. -/
def listed {α : Type} (size : α → Nat) (get? : α → Nat → Option (List Char))
    (runs : List (Nat × α)) (c : Char) : Option (List Char) :=
  match runs.find? fun r => decide (r.1 ≤ c.toNat ∧ c.toNat < r.1 + size r.2) with
  | some r => get? r.2 (c.toNat - r.1)
  | none => none

def replacement? (c : Char) : Option (List Char) :=
  match shifts.find? (·.holds c) with
  | some s => some [s.apply c]
  | none =>
    (listed String.length (fun s i => s.toList[i]?.map fun d => [d]) letters c).or
      (listed List.length (fun ws i => ws[i]?.map String.toList) words c)

/-- What a character stands for, `none` if it is refused. -/
def mapChar (c : Char) : Option (List Char) :=
  if c.toNat < 0x80 then some [c.toLower]
  else if isRefused c then none
  else if isIgnored c then some []
  else some ((replacement? c).getD [c])

def isSettled (c : Char) : Bool :=
  mapChar c == some [c]

end EdgeApi.Uri.Domain
