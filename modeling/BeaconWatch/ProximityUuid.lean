import BeaconWatch.Error
import BeaconWatch.Hex

/-!
Proximity UUIDs: sixteen bytes, written as hexadecimal digits with four hyphens between them.
-/

set_option autoImplicit false

namespace BeaconWatch

structure ProximityUuid where
  bytes : Bytes
  length_bytes : bytes.length = 16
  deriving DecidableEq

namespace ProximityUuid

def ofBytes? (bytes : Bytes) : Option ProximityUuid :=
  if h : bytes.length = 16 then some ⟨bytes, h⟩ else none

theorem ofBytes?_eq_some_iff {bytes : Bytes} {uuid : ProximityUuid} :
    ofBytes? bytes = some uuid ↔ uuid.bytes = bytes := by
  cases uuid
  simp only [ofBytes?]
  split <;> simp_all [eq_comm]
  rintro rfl
  contradiction

def fleet : ProximityUuid :=
  ⟨[0x2f, 0x23, 0x44, 0x54, 0xcf, 0x6d, 0x4a, 0x0f,
    0xad, 0xf2, 0xf4, 0x91, 0x1b, 0xa9, 0xff, 0xa6], rfl⟩

-- A hyphen stands before these bytes.
def hyphenBefore (index : Nat) : Bool :=
  index == 4 || index == 6 || index == 8 || index == 10

def charsFrom : Nat → Bytes → List Char
  | _, [] => []
  | index, byte :: rest =>
      (if hyphenBefore index then ['-'] else []) ++ Hex.encodeByte byte ++ charsFrom (index + 1) rest

def text (uuid : ProximityUuid) : String :=
  .ofList (charsFrom 0 uuid.bytes)

def textLength : Nat := 36

def hyphenOffsets : List Nat :=
  [8, 13, 18, 23]

def hyphen : UInt8 := 45

def ofDigits? (digits : List UInt8) : Option ProximityUuid :=
  (Hex.decode? digits).bind ofBytes?

/-- Reads a UUID. Lengths and offsets count bytes of UTF-8. -/
def parse (text : String) : Except Error ProximityUuid :=
  let utf8 := text.toUTF8.data.toList
  if utf8.length ≠ textLength then
    .error (.uuidLength utf8.length)
  else
    match hyphenOffsets.find? fun offset => utf8[offset]? != some hyphen with
    | some offset => .error (.uuidHyphen offset)
    | none =>
        match ofDigits? (utf8.filter (· != hyphen)) with
        | some uuid => .ok uuid
        | none => .error (.uuidDigits text)

end ProximityUuid

end BeaconWatch
