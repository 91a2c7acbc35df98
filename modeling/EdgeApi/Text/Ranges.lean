/-!
# Ranges of characters

Sets of characters given by the first and the last code point of each range. All tables of
characters are those of Unicode 17.
-/

set_option autoImplicit false

namespace EdgeApi.Text

def within (ranges : List (Nat × Nat)) (c : Char) : Bool :=
  ranges.any fun r => decide (r.1 ≤ c.toNat ∧ c.toNat ≤ r.2)

end EdgeApi.Text
