import BeaconWatch.Double.Shortest

/-!
JSON values. Members of an object stand in the order of the text and may repeat a name. A text that
stops being JSON is a value up to there: `broken` stands where it stops, and every array and object
around that place ends with it.
-/

set_option autoImplicit false

namespace BeaconWatch

structure Numeral where
  negative : Bool
  digits : Nat
  exponent : Int
  integral : Bool
  deriving DecidableEq

namespace Numeral

/-- The integer that is written; a negative zero is none. -/
def toInt? (numeral : Numeral) : Option Int :=
  if numeral.integral && !(numeral.negative && numeral.digits == 0) then
    some (if numeral.negative then -numeral.digits else numeral.digits)
  else
    none

def digitCount (n : Nat) : Nat :=
  (Nat.toDigits 10 n).length

-- The double nearest to the magnitude; none if it is too great for one. Magnitudes that are out of
-- reach by their count of digits alone are not computed.
def magnitude? (numeral : Numeral) : Option Double :=
  let top := digitCount numeral.digits + numeral.exponent
  if numeral.digits = 0 ∨ top ≤ -324 then
    some .zero
  else if 310 ≤ top then
    none
  else
    let decimal : Decimal := ⟨numeral.digits, numeral.exponent⟩
    let value := Double.nearest decimal.num decimal.den
    if value.isFinite then some value else none

end Numeral

/-- A string whose escapes name half of a surrogate pair has no text. A number that is made, not
read, is a double. -/
inductive Json
  | null
  | bool (value : Bool)
  | numeral (value : Numeral)
  | integer (value : Int)
  | double (value : Double)
  | string (text : Option String)
  | array (items : List Json)
  | object (members : List (Option String × Json))
  | broken

namespace Json

def text (value : String) : Json :=
  string (some value)

def record (members : List (String × Json)) : Json :=
  object (members.map fun member => (some member.1, member.2))

end Json

end BeaconWatch
