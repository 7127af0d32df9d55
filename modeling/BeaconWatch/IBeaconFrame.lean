import BeaconWatch.BigEndian
import BeaconWatch.ProximityUuid
import BeaconWatch.Sighting

/-!
iBeacon frames: a mark of two bytes, the proximity UUID, a major and a minor number, and the
transmit power as a signed byte. What follows a frame is not looked at.
-/

set_option autoImplicit false

namespace BeaconWatch

structure IBeaconFrame where
  uuid : ProximityUuid
  major : UInt16
  minor : UInt16
  txPower : Int8
  deriving DecidableEq

namespace IBeaconFrame

def mark : Bytes := [0x02, 0x15]

def frameLength : Nat := 23

def toBytes (frame : IBeaconFrame) : Bytes :=
  mark ++ frame.uuid.bytes ++ BigEndian.split frame.major ++ BigEndian.split frame.minor
    ++ [frame.txPower.toUInt8]

def identity (frame : IBeaconFrame) : BeaconIdentity :=
  ⟨frame.major, frame.minor, frame.txPower.toInt16⟩

def ofFields? (fields : Bytes) : Option IBeaconFrame := do
  let uuid ← ProximityUuid.ofBytes? (fields.take 16)
  match fields.drop 16 with
  | majorHigh :: majorLow :: minorHigh :: minorLow :: power :: _ =>
      some ⟨uuid, BigEndian.join majorHigh majorLow, BigEndian.join minorHigh minorLow,
        power.toInt8⟩
  | _ => none

/-- Reads a manufacturer body: no frame without the mark, and a mark without all fields behind it is
malformed. -/
def parse (body : Bytes) : Except Error (Option IBeaconFrame) :=
  if mark.isPrefixOf body then
    match ofFields? (body.drop mark.length) with
    | some frame => .ok (some frame)
    | none => .error (.malformedInput frameLength body.length)
  else
    .ok none

end IBeaconFrame

end BeaconWatch
