/-!
# Runs at a distance

Every so many characters of a run stand for the characters at one distance from them.
-/

set_option autoImplicit false

namespace EdgeApi.Text

/-- Every `step`-th character of a range, with forms at one distance. -/
structure Shift where
  first : Nat
  last : Nat
  step : Nat
  distance : Int
  deriving DecidableEq

namespace Shift

def holds (s : Shift) (c : Char) : Bool :=
  decide (s.first ≤ c.toNat ∧ c.toNat ≤ s.last ∧ (c.toNat - s.first) % s.step = 0)

def apply (s : Shift) (c : Char) : Char :=
  Char.ofNat (c.toNat + s.distance).toNat

end Shift

end EdgeApi.Text
