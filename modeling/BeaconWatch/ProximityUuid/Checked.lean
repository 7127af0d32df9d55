import BeaconWatch.ProximityUuid

/-!
The reading of a UUID step by step, with every place in a buffer tested before it is read or written. Where the
program would abort there is nothing.
-/

set_option autoImplicit false

namespace BeaconWatch

namespace Hex

def isDigit (byte : UInt8) : Bool :=
  (48 ≤ byte && byte ≤ 57) || (65 ≤ byte && byte ≤ 70) || (97 ≤ byte && byte ≤ 102)

def plus : UInt8 := 43

-- A plus before other characters is a sign. No minus can be before a number without a sign.
def unsigned : Bytes → Bytes
  | first :: second :: rest => if first = plus then second :: rest else first :: second :: rest
  | short => short

-- One more digit; nothing if it is none or the number leaves the byte.
def appendDigit? (value : Nat) (digit : UInt8) : Option Nat := do
  let longer := 16 * value + (← value? digit)
  if longer < 256 then some longer else none

/-- Reads a byte written in base sixteen, with or without a sign. -/
def readByte? (written : Bytes) : Option UInt8 :=
  if written.isEmpty then none
  else ((unsigned written).foldlM appendDigit? 0).map .ofNat

def pairs : Bytes → List Bytes
  | [] => []
  | [last] => [[last]]
  | upper :: lower :: rest => [upper, lower] :: pairs rest

end Hex

namespace ProximityUuid

def utf8 (text : String) : Bytes :=
  text.toUTF8.data.toList

-- The first of the offsets at which there is another byte than a hyphen.
def misplaced? (bytes : Bytes) : List Nat → Option (Option Nat)
  | [] => some none
  | offset :: rest => do
      if (← bytes[offset]?) ≠ hyphen then some (some offset) else misplaced? bytes rest

def write? (slots : Bytes) (index : Nat) (byte : UInt8) : Option Bytes :=
  if index < slots.length then some (slots.set index byte) else none

-- A pair of digits is taken as a text before it is read as a number.
def readPair? (pair : Bytes) : Option UInt8 := do
  let digits ← String.fromUTF8? ⟨pair.toArray⟩
  Hex.readByte? (utf8 digits)

/-- Fills slots from an index on with what the pairs read as, unless one of them cannot be read. -/
def fill? (slots : Bytes) (index : Nat) : List Bytes → Option (Option Bytes)
  | [] => some (some slots)
  | pair :: rest =>
      match readPair? pair with
      | none => some none
      | some byte => do fill? (← write? slots index byte) (index + 1) rest

def parse? (text : String) : Option (Except Error ProximityUuid) :=
  let bytes := utf8 text
  if bytes.length ≠ textLength then
    some (.error (.uuidLength bytes.length))
  else do
    match ← misplaced? bytes hyphenOffsets with
    | some offset => some (.error (.uuidHyphen offset))
    | none =>
        let digits := bytes.filter (· != hyphen)
        if digits.length ≠ 32 || !digits.all Hex.isDigit then
          some (.error (.uuidDigits text))
        else do
          match ← fill? (List.replicate 16 0) 0 (Hex.pairs digits) with
          | none => some (.error (.uuidDigits text))
          | some slots => (ofBytes? slots).map .ok

end ProximityUuid

end BeaconWatch
