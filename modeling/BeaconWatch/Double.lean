import BeaconWatch.Word

/-!
Finite doubles without a sign, as exact dyadic rationals. Every operation takes the exact rational
result and rounds it to the nearest double, a tie going to the even mantissa.
-/

set_option autoImplicit false

namespace BeaconWatch

/-- The natural number nearest to `num / den`, a tie going to the even one. -/
def roundRatio (num den : Nat) : Nat :=
  let quotient := num / den
  let rest := num % den
  if 2 * rest < den ∨ (2 * rest = den ∧ quotient % 2 = 0) then quotient else quotient + 1

/-- The value `mantissa * 2 ^ exponent`. A double has fewer than 54 mantissa bits, and fewer than 53
only at the least exponent. -/
structure Double where
  mantissa : Nat
  exponent : Int
  deriving DecidableEq

namespace Double

def leastExponent : Int := -1074

def zero : Double :=
  ⟨0, leastExponent⟩

def one : Double :=
  ⟨2 ^ 52, -52⟩

def scaledNum (num : Nat) (exponent : Int) : Nat :=
  num * 2 ^ (-exponent).toNat

def scaledDen (den : Nat) (exponent : Int) : Nat :=
  den * 2 ^ exponent.toNat

-- The exponent at which a ratio has 53 bits before the point, or the least one.
def exponentOf (num den : Nat) : Int :=
  let guess : Int := num.log2 - den.log2 - 52
  let fitting :=
    if scaledNum num guess < 2 ^ 52 * scaledDen den guess then guess - 1 else guess
  max fitting leastExponent

/-- The double nearest to `num / den`, without regard to the greatest exponent. -/
def nearest (num den : Nat) : Double :=
  if num = 0 then zero
  else
    let exponent := exponentOf num den
    let mantissa := roundRatio (scaledNum num exponent) (scaledDen den exponent)
    if mantissa = 2 ^ 53 then ⟨2 ^ 52, exponent + 1⟩ else ⟨mantissa, exponent⟩

def num (value : Double) : Nat :=
  value.mantissa * 2 ^ value.exponent.toNat

def den (value : Double) : Nat :=
  2 ^ (-value.exponent).toNat

def greatestExponent : Int := 971

def isFinite (value : Double) : Bool :=
  decide (value.exponent ≤ greatestExponent)

def isZero (value : Double) : Bool :=
  value.mantissa == 0

def ofNat (n : Nat) : Double :=
  nearest n 1

def add (a b : Double) : Double :=
  nearest (a.num * b.den + b.num * a.den) (a.den * b.den)

def div (a b : Double) : Double :=
  nearest (a.num * b.den) (a.den * b.num)

-- The 64 bits of the interchange format, sign bit clear.
def toBits (value : Double) : Nat :=
  if value.mantissa < 2 ^ 52 then value.mantissa
  else (value.exponent + 1075).toNat * 2 ^ 52 + (value.mantissa - 2 ^ 52)

end Double

end BeaconWatch
