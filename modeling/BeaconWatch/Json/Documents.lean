import BeaconWatch.Json.Fields
import BeaconWatch.Json.Text
import BeaconWatch.Registry.Basic
import BeaconWatch.Seconds
import BeaconWatch.TrackerConfig

/-!
The JSON form of keys, identities, sightings, records, UUIDs and configurations, and how each is read
back. Times and durations are numbers of seconds.
-/

set_option autoImplicit false

namespace BeaconWatch

open Json (Reading ReadFailure Fields)

namespace Json

-- A document holds one value and nothing after it.
def Document.read {α : Type} (document : Document) (reader : Json → Reading α) : Reading α := do
  let value ← reader document.value
  if document.complete then .ok value else .error .malformed

def readInt : Json → Reading Int
  | .numeral value =>
      match value.toInt? with
      | some n => .ok n
      | none => .error .malformed
  | .integer value => .ok value
  | _ => .error .malformed

def readBounded {α : Type} (low high : Int) (make : Int → α) (json : Json) : Reading α := do
  let n ← readInt json
  if low ≤ n ∧ n ≤ high then .ok (make n) else .error .malformed

def readUInt16 : Json → Reading UInt16 :=
  readBounded 0 (2 ^ 16 - 1) fun n => .ofNat n.toNat

def readUInt64 : Json → Reading UInt64 :=
  readBounded 0 (2 ^ 64 - 1) fun n => .ofNat n.toNat

def readInt16 : Json → Reading Int16 :=
  readBounded (-2 ^ 15) (2 ^ 15 - 1) .ofInt

def readInt32 : Json → Reading Int32 :=
  readBounded (-2 ^ 31) (2 ^ 31 - 1) .ofInt

def readText : Json → Reading String
  | .string (some text) => .ok text
  | _ => .error .malformed

/-- Reads a number of seconds, which must not be negative; a negative zero is zero. The reader tells the double
that a numeral stands for, if it is not too great for one. -/
def readSecondsBy (reader : Numeral → Option Double) : Json → Reading Double
  | .double value => .ok value
  | .integer value =>
      if value < 0 then .error (.negativeSeconds (.ofNat value.natAbs))
      else .ok (.ofNat value.natAbs)
  | .numeral value =>
      match reader value with
      | none => .error .malformed
      | some magnitude =>
          if value.negative && !magnitude.isZero then .error (.negativeSeconds magnitude)
          else .ok magnitude
  | _ => .error .malformed

-- The same with a reader that rounds to the nearest double.
def readSeconds : Json → Reading Double :=
  readSecondsBy Numeral.magnitude?

def orAbort {α : Type} : Except Abort α → Reading α
  | .ok value => .ok value
  | .error abort => .error (.aborted abort)

def readDurationBy (reader : Numeral → Option Double) (json : Json) : Reading Duration := do
  let seconds ← readSecondsBy reader json
  orAbort (Duration.ofDouble seconds)

def readTimestampBy (reader : Numeral → Option Double) (json : Json) : Reading Timestamp := do
  let seconds ← readSecondsBy reader json
  orAbort (Timestamp.ofDouble seconds)

def readOption {α : Type} (reader : Json → Reading α) : Json → Reading (Option α)
  | .null => .ok none
  | json => (reader json).map some

end Json

namespace IdentityKey

def toJson (key : IdentityKey) : Json :=
  .record [("major", .integer key.major.toNat), ("minor", .integer key.minor.toNat)]

def fields : Fields IdentityKey :=
  ((Fields.required "major" Json.readUInt16).both (.required "minor" Json.readUInt16)).map
    fun (major, minor) => ⟨major, minor⟩

def ofJson (json : Json) : Reading IdentityKey :=
  fields.read json

end IdentityKey

namespace IntakePath

def toJson (path : IntakePath) : Json :=
  .text path.text

def ofName (name : String) : Reading IntakePath :=
  match ofText? name with
  | some path => .ok path
  | none => .error (.unknownPath name)

/-- A path is its name, or an object whose only member has that name and is null. -/
def ofJson : Json → Reading IntakePath
  | .string (some name) => ofName name
  | .object ((some name, value) :: rest) => do
      let path ← ofName name
      match value, rest with
      | .null, [] => .ok path
      | _, _ => .error .malformed
  | _ => .error .malformed

end IntakePath

namespace BeaconIdentity

def toJson (identity : BeaconIdentity) : Json :=
  .record [("major", .integer identity.major.toNat), ("minor", .integer identity.minor.toNat),
    ("tx_power", .integer identity.txPower.toInt)]

def fields : Fields BeaconIdentity :=
  ((Fields.required "major" Json.readUInt16).both
    ((Fields.required "minor" Json.readUInt16).both (.required "tx_power" Json.readInt16))).map
      fun (major, minor, txPower) => ⟨major, minor, txPower⟩

def ofJson (json : Json) : Reading BeaconIdentity :=
  fields.read json

end BeaconIdentity

namespace Sighting

def toJson (sighting : Sighting) : Json :=
  .record [("major", .integer sighting.major.toNat), ("minor", .integer sighting.minor.toNat),
    ("tx_power", .integer sighting.txPower.toInt), ("rssi", .integer sighting.rssi.toInt),
    ("source", sighting.source.toJson)]

def fields : Fields Sighting :=
  ((Fields.required "major" Json.readUInt16).both
    ((Fields.required "minor" Json.readUInt16).both
      ((Fields.required "tx_power" Json.readInt16).both
        ((Fields.required "rssi" Json.readInt32).both
          (.required "source" IntakePath.ofJson))))).map
      fun (major, minor, txPower, rssi, source) => ⟨major, minor, txPower, rssi, source⟩

def ofJson (json : Json) : Reading Sighting :=
  fields.read json

end Sighting

namespace BeaconRecord

def toJson (record : BeaconRecord) : Json :=
  .record [("key", record.key.toJson), ("major", .integer record.major.toNat),
    ("minor", .integer record.minor.toNat), ("tx_power", .integer record.txPower.toInt),
    ("rssi", .integer record.rssi.toInt), ("observed_at", .double record.observedAt.toDouble),
    ("source", record.source.elim .null IntakePath.toJson)]

-- Only the source may be missing.
def fieldsBy (reader : Numeral → Option Double) : Fields BeaconRecord :=
  ((Fields.required "key" IdentityKey.ofJson).both
    ((Fields.required "major" Json.readUInt16).both
      ((Fields.required "minor" Json.readUInt16).both
        ((Fields.required "tx_power" Json.readInt16).both
          ((Fields.required "rssi" Json.readInt32).both
            ((Fields.required "observed_at" (Json.readTimestampBy reader)).both
              (.one "source" (Json.readOption IntakePath.ofJson) (some none)))))))).map
      fun (key, major, minor, txPower, rssi, observedAt, source) =>
        ⟨key, major, minor, txPower, rssi, observedAt, source⟩

def ofJsonBy (reader : Numeral → Option Double) (json : Json) : Reading BeaconRecord :=
  (fieldsBy reader).read json

def ofJson : Json → Reading BeaconRecord :=
  ofJsonBy Numeral.magnitude?

end BeaconRecord

namespace ProximityUuid

def toJson (uuid : ProximityUuid) : Json :=
  .text uuid.text

def ofJson (json : Json) : Reading ProximityUuid := do
  let text ← Json.readText json
  match parse text with
  | .ok uuid => .ok uuid
  | .error error => .error (.badUuid error)

end ProximityUuid

namespace TrackerConfig

def toJson (config : TrackerConfig) : Json :=
  .record [("proximity_uuid", config.proximityUuid.toJson),
    ("expiration", .double config.expiration.toDouble),
    ("payload_byte_count", .integer config.payloadByteCount.toNat),
    ("channel_capacity", .integer config.channelCapacity.toNat)]

def fieldsBy (reader : Numeral → Option Double) : Fields TrackerConfig :=
  ((Fields.required "proximity_uuid" ProximityUuid.ofJson).both
    ((Fields.required "expiration" (Json.readDurationBy reader)).both
      ((Fields.required "payload_byte_count" Json.readUInt64).both
        (.required "channel_capacity" Json.readUInt64)))).map
      fun (uuid, expiration, payloadByteCount, channelCapacity) =>
        ⟨uuid, expiration, payloadByteCount, channelCapacity⟩

def ofJsonBy (reader : Numeral → Option Double) (json : Json) : Reading TrackerConfig :=
  (fieldsBy reader).read json

def ofJson : Json → Reading TrackerConfig :=
  ofJsonBy Numeral.magnitude?

end TrackerConfig

end BeaconWatch
