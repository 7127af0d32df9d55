import BeaconWatch.BigEndian
import BeaconWatch.Overflow.Frame
import BeaconWatch.Sighting

/-!
Identities in payloads. A payload of five bytes is a major and a minor number, high byte first, and
the transmit power as its offset from -256 dBm; an extractor looks for payloads of one size.
-/

set_option autoImplicit false

namespace BeaconWatch.Overflow

def powerOfByte (byte : UInt8) : Int16 :=
  .ofInt (byte.toNat - 256)

def interpret : Bytes → Option BeaconIdentity
  | [majorHigh, majorLow, minorHigh, minorLow, power] =>
      some ⟨BigEndian.join majorHigh majorLow, BigEndian.join minorHigh minorLow,
        powerOfByte power⟩
  | _ => none

/-- The payload of an identity; only powers from -256 to -1 dBm have a byte. -/
def identityPayload (identity : BeaconIdentity) : Except Error Bytes :=
  let power := identity.txPower.toInt
  if -256 ≤ power ∧ power ≤ -1 then
    .ok (BigEndian.split identity.major ++ BigEndian.split identity.minor
      ++ [.ofNat (power + 256).toNat])
  else
    .error (.txPowerNotBroadcast power)

/-! The same with powers in signed words of 16 bits. An operation answers only when its result, which wraps, has the
exact value; so does a cast. -/

def exactly? {α : Type} (value : α → Int) (result : α) (exact : Int) : Option α :=
  if value result = exact then some result else none

def powerOfByte? (byte : UInt8) : Option Int16 := do
  let word ← exactly? Int16.toInt byte.toUInt16.toInt16 byte.toNat
  exactly? Int16.toInt (word - 256) (word.toInt - 256)

def byteOfPower? (power : Int16) : Option UInt8 := do
  let offset ← exactly? Int16.toInt (power + 256) (power.toInt + 256)
  exactly? (fun byte : UInt8 => byte.toNat) offset.toUInt16.toUInt8 offset.toInt

def interpretInWords? : Bytes → Option (Option BeaconIdentity)
  | [majorHigh, majorLow, minorHigh, minorLow, power] => do
      let txPower ← powerOfByte? power
      some (some ⟨BigEndian.join majorHigh majorLow, BigEndian.join minorHigh minorLow, txPower⟩)
  | _ => some none

def identityPayload? (identity : BeaconIdentity) : Option (Except Error Bytes) :=
  let power := identity.txPower.toInt
  if -256 ≤ power ∧ power ≤ -1 then do
    let byte ← byteOfPower? identity.txPower
    some (.ok (BigEndian.split identity.major ++ BigEndian.split identity.minor ++ [byte]))
  else
    some (.error (.txPowerNotBroadcast power))

structure Extractor where
  payloadBytes : Nat := defaultPayloadBytes
  deriving DecidableEq

namespace Extractor

def inspect (extractor : Extractor) (raw : Bytes) : Except Error Extraction :=
  Overflow.inspect extractor.payloadBytes raw

def extract (extractor : Extractor) (raw : Bytes) : Except Error (Option Bytes) :=
  Overflow.extract extractor.payloadBytes raw

def identify (extractor : Extractor) (raw : Bytes) : Except Error (Option BeaconIdentity) :=
  (extractor.extract raw).map fun payload => payload.bind interpret

def encode (extractor : Extractor) (payload : Bytes) : Except Error Bytes :=
  encodePayload extractor.payloadBytes payload

-- An answer that takes the extractor's sizes in words to find.
def inWords {α : Type} (extractor : Extractor) (answer : α) : Except Abort α :=
  match requiredLength? extractor.payloadBytes with
  | some _ => .ok answer
  | none => .error .sizeOverflow

end Extractor

end BeaconWatch.Overflow
