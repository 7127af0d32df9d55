import BeaconWatch.Advertisement
import BeaconWatch.Channel
import BeaconWatch.Overflow.Extractor

/-!
The two intake paths. Each finds at most one sighting in an advertisement report and forwards it on
its channel; a malformed report is dropped before the channel is looked at.
-/

set_option autoImplicit false

namespace BeaconWatch

def screen (found : Except Error (Option Sighting)) : Option Sighting :=
  match found with
  | .ok sighting? => sighting?
  | .error _ => none

/-- What became of a report: it carried nothing to send, or its sighting was given to the channel. -/
inductive Handled
  | ignored
  | given (result : SendResult)
  deriving DecidableEq

def handleFound (found : Except Error (Option Sighting)) (how : Waiting)
    (channel : Channel Sighting) : Handled × Channel Sighting :=
  match screen found with
  | some sighting =>
      let (result, channel) := channel.send how sighting
      (.given result, channel)
  | none => (.ignored, channel)

structure IBeaconIntake where
  uuid : ProximityUuid := .fleet
  deriving DecidableEq

namespace IBeaconIntake

def sighting (intake : IBeaconIntake) (report : AdvertisementReport) :
    Except Error (Option Sighting) :=
  match report.classify with
  | .ok (.iBeacon frame) =>
      if frame.uuid = intake.uuid then
        .ok (some (.of frame.identity report.rssi .iBeacon))
      else
        .ok none
  | .ok (.overflowArea _) | .ok .other => .ok none
  | .error error => .error error

def handle (intake : IBeaconIntake) (how : Waiting) (report : AdvertisementReport)
    (channel : Channel Sighting) : Handled × Channel Sighting :=
  handleFound (intake.sighting report) how channel

def submit (how : Waiting) (identity : BeaconIdentity) (rssi : Int32)
    (channel : Channel Sighting) : SendResult × Channel Sighting :=
  channel.send how (.of identity rssi .iBeacon)

end IBeaconIntake

structure OverflowIntake where
  extractor : Overflow.Extractor := {}
  deriving DecidableEq

namespace OverflowIntake

def sighting (intake : OverflowIntake) (report : AdvertisementReport) :
    Except Error (Option Sighting) :=
  match report.classify with
  | .ok (.overflowArea raw) =>
      (intake.extractor.identify raw).map fun identity? =>
        identity?.map fun identity => .of identity report.rssi .overflowArea
  | .ok (.iBeacon _) | .ok .other => .ok none
  | .error error => .error error

/-- The same, unless the sizes that an overflow area asks for leave their words. -/
def sightingInWords (intake : OverflowIntake) (report : AdvertisementReport) :
    Except Abort (Except Error (Option Sighting)) :=
  match report.classify with
  | .ok (.overflowArea _) => intake.extractor.inWords (intake.sighting report)
  | _ => .ok (intake.sighting report)

def handle (intake : OverflowIntake) (how : Waiting) (report : AdvertisementReport)
    (channel : Channel Sighting) : Handled × Channel Sighting :=
  handleFound (intake.sighting report) how channel

end OverflowIntake

end BeaconWatch
