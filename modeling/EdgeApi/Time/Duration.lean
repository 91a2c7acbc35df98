/-!
# Durations

Whole seconds in a word of 64 bits, and the nanoseconds beyond them. Only durations whose seconds fit
have a product.
-/

set_option autoImplicit false

namespace EdgeApi

structure Duration where
  seconds : UInt64
  nanoseconds : UInt32
  nanoseconds_lt : nanoseconds.toNat < 1000000000

namespace Duration

/-- The longest duration in nanoseconds: just under `2 ^ 64` seconds. -/
def longest : Nat := UInt64.size * 1000000000 - 1

def toNat (d : Duration) : Nat :=
  d.seconds.toNat * 1000000000 + d.nanoseconds.toNat

def ofNat? (n : Nat) : Option Duration :=
  if n ≤ longest then
    some {
      seconds := UInt64.ofNat (n / 1000000000)
      nanoseconds := UInt32.ofNat (n % 1000000000)
      nanoseconds_lt := by
        have hSmall : n % 1000000000 < 1000000000 := Nat.mod_lt n (by decide)
        rwa [UInt32.toNat_ofNat_of_lt' (Nat.lt_trans hSmall (by decide))] }
  else none

def addWords? (a b : UInt64) : Option UInt64 :=
  if a.toNat + b.toNat < UInt64.size then some (a + b) else none

def mulWords? (a b : UInt64) : Option UInt64 :=
  if a.toNat * b.toNat < UInt64.size then some (a * b) else none

/-- Seconds and nanoseconds, of which whole seconds are carried over. -/
def carried? (seconds nanoseconds : UInt64) : Option Duration := do
  let seconds ← addWords? seconds (nanoseconds / 1000000000)
  return {
    seconds
    nanoseconds := (nanoseconds % 1000000000).toUInt32
    nanoseconds_lt := by
      simp only [UInt64.toNat_toUInt32, UInt64.toNat_mod, UInt64.reduceToNat]
      omega }

/-- The product with a number. The nanoseconds are multiplied before any are carried over. -/
def times? (d : Duration) (n : UInt32) : Option Duration := do
  let seconds ← mulWords? d.seconds n.toUInt64
  carried? seconds (d.nanoseconds.toUInt64 * n.toUInt64)

end Duration

end EdgeApi
