import BeaconWatch.Sighting
import BeaconWatch.Time

/-!
The registry of nearby beacons: the latest record of each. Every update sweeps the records whose
age exceeds the expiration; between updates nothing is removed.
-/

set_option autoImplicit false

namespace BeaconWatch

structure BeaconRecord where
  key : IdentityKey
  major : UInt16
  minor : UInt16
  txPower : Int16
  rssi : Int32
  observedAt : Timestamp
  source : Option IntakePath
  deriving DecidableEq

namespace BeaconRecord

def age (record : BeaconRecord) (now : Timestamp) : Duration :=
  now.since record.observedAt

def ofSighting (sighting : Sighting) (now : Timestamp) : BeaconRecord where
  key := sighting.key
  major := sighting.major
  minor := sighting.minor
  txPower := sighting.txPower
  rssi := sighting.rssi
  observedAt := now
  source := some sighting.source

-- The record of an identity that was seen on neither intake path.
def ofIdentity (identity : BeaconIdentity) (rssi : Int32) (now : Timestamp) : BeaconRecord where
  key := identity.key
  major := identity.major
  minor := identity.minor
  txPower := identity.txPower
  rssi := rssi
  observedAt := now
  source := none

end BeaconRecord

/-- Records newest first, at most one to a key. -/
structure Registry where
  expiration : Duration
  records : List BeaconRecord := []
  deriving DecidableEq

namespace Registry

def isFresh (registry : Registry) (now : Timestamp) (record : BeaconRecord) : Bool :=
  decide ((record.age now).nanos ≤ registry.expiration.nanos)

/-- Puts a record in the place of the one with its key, then sweeps. -/
def upsert (registry : Registry) (record : BeaconRecord) (now : Timestamp) : Registry where
  expiration := registry.expiration
  records :=
    (record :: registry.records.filter fun other => other.key != record.key).filter
      (registry.isFresh now)

@[simp] theorem expiration_upsert (registry : Registry) (record : BeaconRecord)
    (now : Timestamp) : (registry.upsert record now).expiration = registry.expiration := rfl

def updateAt (registry : Registry) (identity : BeaconIdentity) (rssi : Int32)
    (now : Timestamp) : Registry :=
  registry.upsert (.ofIdentity identity rssi now) now

def recordAt (registry : Registry) (sighting : Sighting) (now : Timestamp) : Registry :=
  registry.upsert (.ofSighting sighting now) now

def snapshot (registry : Registry) : List BeaconRecord :=
  registry.records

def get? (registry : Registry) (key : IdentityKey) : Option BeaconRecord :=
  registry.records.find? fun record => record.key == key

def size (registry : Registry) : Nat :=
  registry.records.length

def isEmpty (registry : Registry) : Bool :=
  registry.size == 0

def countBySource (registry : Registry) (source : IntakePath) : Nat :=
  registry.records.countP fun record => record.source == some source

end Registry

end BeaconWatch
