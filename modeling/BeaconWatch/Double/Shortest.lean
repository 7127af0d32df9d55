import BeaconWatch.Double

/-!
The shortest decimal that reads back as a given double. Decimal grids are tried from the coarsest
on; the first one with a point that rounds to the double gives the fewest digits, and of two such
points the nearer one is taken.
-/

set_option autoImplicit false

namespace BeaconWatch

structure Decimal where
  digits : Nat
  exponent : Int
  deriving DecidableEq

namespace Decimal

def num (value : Decimal) : Nat :=
  value.digits * 10 ^ value.exponent.toNat

def den (value : Decimal) : Nat :=
  10 ^ (-value.exponent).toNat

def zeros (count : Nat) : List Char :=
  List.replicate count '0'

/-- Positional notation, never an exponent, and no point in a whole number. -/
def text (value : Decimal) : String :=
  let digits := (toString value.digits).toList
  if 0 ≤ value.exponent then
    .ofList (digits ++ zeros value.exponent.toNat)
  else
    let places := (-value.exponent).toNat
    if places < digits.length then
      .ofList (digits.take (digits.length - places) ++ '.' :: digits.drop (digits.length - places))
    else
      .ofList ('0' :: '.' :: zeros (places - digits.length) ++ digits)

end Decimal

namespace Double

def isReadFrom (value : Double) (decimal : Decimal) : Bool :=
  nearest decimal.num decimal.den == value

def gridFloor (value : Double) (exponent : Int) : Decimal :=
  ⟨value.num * 10 ^ (-exponent).toNat / (value.den * 10 ^ exponent.toNat), exponent⟩

def nearerAbove (value : Double) (exponent : Int) : Bool :=
  let den := value.den * 10 ^ exponent.toNat
  decide (den ≤ 2 * (value.num * 10 ^ (-exponent).toNat % den))

-- The grid point that reads back as the double, if there is one.
def onGrid? (value : Double) (exponent : Int) : Option Decimal :=
  let lower := value.gridFloor exponent
  let upper : Decimal := ⟨lower.digits + 1, exponent⟩
  match value.isReadFrom lower, value.isReadFrom upper with
  | true, true => some (if value.nearerAbove exponent then upper else lower)
  | true, false => some lower
  | false, true => some upper
  | false, false => none

-- From the grid of the greatest doubles down to one finer than the least double.
def gridExponents : List Int :=
  (List.range 634).map fun (index : Nat) => (309 - index : Int)

def shortest (value : Double) : Decimal :=
  (gridExponents.findSome? value.onGrid?).getD ⟨0, 0⟩

end Double

end BeaconWatch
