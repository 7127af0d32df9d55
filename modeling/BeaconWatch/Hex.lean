import BeaconWatch.Bits

/-!
Bytes as hexadecimal digits, two to a byte. Digits are read in either case and written in lower
case.
-/

set_option autoImplicit false

namespace BeaconWatch.Hex

def value? (digit : UInt8) : Option Nat :=
  let code := digit.toNat
  if 48 ≤ code ∧ code ≤ 57 then some (code - 48)
  else if 65 ≤ code ∧ code ≤ 70 then some (code - 55)
  else if 97 ≤ code ∧ code ≤ 102 then some (code - 87)
  else none

def decode? : List UInt8 → Option Bytes
  | [] => some []
  | [_] => none
  | upper :: lower :: rest => do
      let u ← value? upper
      let l ← value? lower
      let bytes ← decode? rest
      some (.ofNat (16 * u + l) :: bytes)

def encodeByte (byte : UInt8) : List Char :=
  [Nat.digitChar (byte.toNat / 16), Nat.digitChar (byte.toNat % 16)]

def encode (bytes : Bytes) : List Char :=
  bytes.flatMap encodeByte

end BeaconWatch.Hex
