import BeaconWatch.Intake

/-!
What the intakes find in a report and what they do with it, with every place in a buffer tested before it is read and
every size kept in words. Where the program would abort there is nothing.
-/

set_option autoImplicit false

namespace BeaconWatch

-- The bytes from one place in a buffer to another.
def slice? (bytes : Bytes) (start stop : Nat) : Option Bytes :=
  if start ≤ stop ∧ stop ≤ bytes.length then some ((bytes.take stop).drop start) else none

def IBeaconFrame.parse? (body : Bytes) : Option (Except Error (Option IBeaconFrame)) :=
  if !mark.isPrefixOf body then
    some (.ok none)
  else if body.length < frameLength then
    some (.error (.malformedInput frameLength body.length))
  else do
    let uuid ← (← slice? body 2 18) |> ProximityUuid.ofBytes?
    let majorHigh ← body[18]?
    let majorLow ← body[19]?
    let minorHigh ← body[20]?
    let minorLow ← body[21]?
    let power ← body[22]?
    some (.ok (some ⟨uuid, BigEndian.join majorHigh majorLow, BigEndian.join minorHigh minorLow, power.toInt8⟩))

namespace AdvertisementReport

def kindOfOtherBody? (body : Bytes) : Option AdvertisementKind :=
  if body.head? = some overflowMarker then
    (Overflow.cutAt? body 1).map .overflowArea
  else
    some .other

def classify? (report : AdvertisementReport) : Option (Except Error AdvertisementKind) :=
  match report.appleBody? with
  | none => some (.ok .other)
  | some body => do
      match ← IBeaconFrame.parse? body with
      | .ok (some frame) => some (.ok (.iBeacon frame))
      | .ok none => (kindOfOtherBody? body).map .ok
      | .error error => some (.error error)

end AdvertisementReport

namespace Overflow

def interpret? (payload : Bytes) : Option (Option BeaconIdentity) :=
  if payload.length ≠ defaultPayloadBytes then
    some none
  else do
    let majorHigh ← payload[0]?
    let majorLow ← payload[1]?
    let minorHigh ← payload[2]?
    let minorLow ← payload[3]?
    let power ← payload[4]?
    some (some ⟨BigEndian.join majorHigh majorLow, BigEndian.join minorHigh minorLow, powerOfByte power⟩)

def Extractor.identify? (extractor : Extractor) (raw : Bytes) : Option (Except Error (Option BeaconIdentity)) := do
  match ← extract? extractor.payloadBytes raw with
  | .ok (some payload) => (interpret? payload).map .ok
  | .ok none => some (.ok none)
  | .error error => some (.error error)

end Overflow

def IBeaconIntake.sighting? (intake : IBeaconIntake) (report : AdvertisementReport) :
    Option (Except Error (Option Sighting)) := do
  match ← report.classify? with
  | .ok (.iBeacon frame) =>
      some (.ok (if frame.uuid = intake.uuid then some (.of frame.identity report.rssi .iBeacon) else none))
  | .ok (.overflowArea _) | .ok .other => some (.ok none)
  | .error error => some (.error error)

def OverflowIntake.sighting? (intake : OverflowIntake) (report : AdvertisementReport) :
    Option (Except Error (Option Sighting)) := do
  match ← report.classify? with
  | .ok (.overflowArea raw) =>
      (intake.extractor.identify? raw).map fun found => found.map fun identity? =>
        identity?.map fun identity => .of identity report.rssi .overflowArea
  | .ok (.iBeacon _) | .ok .other => some (.ok none)
  | .error error => some (.error error)

inductive Intake
  | iBeacon (intake : IBeaconIntake)
  | overflow (intake : OverflowIntake)
  deriving DecidableEq

namespace Intake

def handle (intake : Intake) (how : Waiting) (report : AdvertisementReport) (channel : Channel Sighting) :
    Handled × Channel Sighting :=
  match intake with
  | iBeacon intake => intake.handle how report channel
  | overflow intake => intake.handle how report channel

def sighting? (intake : Intake) (report : AdvertisementReport) : Option (Except Error (Option Sighting)) :=
  match intake with
  | iBeacon intake => intake.sighting? report
  | overflow intake => intake.sighting? report

end Intake

end BeaconWatch
