/-!
Sizes in 64-bit words. Each operation answers only when its exact result is itself a word, so a
computation that answers agrees with the one over natural numbers.
-/

set_option autoImplicit false

-- Powers stay the core's own where Mathlib, which has others for a monoid, is imported as well.
attribute [instance (10000), default_instance 20000] instPowNat

namespace BeaconWatch.Word

def bound : Nat := 2 ^ 64

def add? (a b : Nat) : Option Nat :=
  if a + b < bound then some (a + b) else none

def mul? (a b : Nat) : Option Nat :=
  if a * b < bound then some (a * b) else none

-- One, shifted left; a word has no place beyond the sixty-third.
def powerOfTwo? (exponent : Nat) : Option Nat :=
  if exponent < 64 then some (2 ^ exponent) else none

theorem add?_eq_some_iff {a b c : Nat} :
    add? a b = some c ↔ c = a + b ∧ a + b < bound := by
  simp only [add?]
  split <;> simp_all [eq_comm]

theorem mul?_eq_some_iff {a b c : Nat} :
    mul? a b = some c ↔ c = a * b ∧ a * b < bound := by
  simp only [mul?]
  split <;> simp_all [eq_comm]

theorem add?_of_lt {a b : Nat} (word : a + b < 2 ^ 64) : add? a b = some (a + b) :=
  if_pos word

theorem mul?_of_lt {a b : Nat} (word : a * b < 2 ^ 64) : mul? a b = some (a * b) :=
  if_pos word

theorem powerOfTwo?_of_lt {exponent : Nat} (place : exponent < 64) : powerOfTwo? exponent = some (2 ^ exponent) :=
  if_pos place

end BeaconWatch.Word
