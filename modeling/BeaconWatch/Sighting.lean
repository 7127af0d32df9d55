/-!
Beacons and their sightings. A beacon is known by its major and minor numbers; a sighting is one
observation of it on one of the two intake paths.
-/

set_option autoImplicit false

namespace BeaconWatch

structure IdentityKey where
  major : UInt16
  minor : UInt16
  deriving DecidableEq

namespace IdentityKey

def text (key : IdentityKey) : String :=
  s!"{key.major.toNat}-{key.minor.toNat}"

def le (a b : IdentityKey) : Bool :=
  decide (a.major < b.major) || (a.major == b.major && decide (a.minor ≤ b.minor))

def sort (keys : List IdentityKey) : List IdentityKey :=
  keys.mergeSort le

def distinctCount (keys : List IdentityKey) : Nat :=
  keys.eraseDups.length

end IdentityKey

inductive IntakePath
  | iBeacon
  | overflowArea
  deriving DecidableEq

namespace IntakePath

def text : IntakePath → String
  | iBeacon => "IBeacon"
  | overflowArea => "OverflowArea"

def ofText? (name : String) : Option IntakePath :=
  if name = "IBeacon" then some iBeacon
  else if name = "OverflowArea" then some overflowArea
  else none

@[simp] theorem ofText?_text (path : IntakePath) : ofText? path.text = some path := by
  cases path <;> rfl

end IntakePath

/-- Who a beacon is and how strongly it sends, in dBm. The power is wider than a signed byte, since
the overflow area carries it as an offset from -256. -/
structure BeaconIdentity where
  major : UInt16
  minor : UInt16
  txPower : Int16
  deriving DecidableEq

def BeaconIdentity.key (identity : BeaconIdentity) : IdentityKey :=
  ⟨identity.major, identity.minor⟩

structure Sighting where
  major : UInt16
  minor : UInt16
  txPower : Int16
  rssi : Int32
  source : IntakePath
  deriving DecidableEq

namespace Sighting

def of (identity : BeaconIdentity) (rssi : Int32) (source : IntakePath) : Sighting :=
  ⟨identity.major, identity.minor, identity.txPower, rssi, source⟩

def key (sighting : Sighting) : IdentityKey :=
  ⟨sighting.major, sighting.minor⟩

@[simp] theorem key_of (identity : BeaconIdentity) (rssi : Int32) (source : IntakePath) :
    (of identity rssi source).key = identity.key := rfl

end Sighting

end BeaconWatch
