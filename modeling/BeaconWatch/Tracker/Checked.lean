import BeaconWatch.Intake.Checked
import BeaconWatch.Tracker.Actions

/-!
Runs of a tracker in which reports are given to its intakes and every step that could abort is tested.
-/

set_option autoImplicit false

namespace BeaconWatch.Tracker

inductive Deed
  | act (action : Action)
  | report (id : PumpId) (how : Waiting) (report : AdvertisementReport)
  deriving DecidableEq

/-- A report that is given to an intake of the path. -/
def Deed.reports (path : IntakePath) : Deed → Bool
  | .act _ => false
  | .report id _ _ => id.path = path

-- The action that a deed comes to; a report that carries nothing to send comes to none.
def action? (tracker : Tracker) : Deed → Option Action
  | .act action => some action
  | .report id how report => (screen (tracker.found id.path report)).map (.send id how)

def found? (tracker : Tracker) (path : IntakePath) (report : AdvertisementReport) :
    Option (Except Error (Option Sighting)) :=
  match path with
  | .iBeacon => { uuid := tracker.config.proximityUuid : IBeaconIntake }.sighting? report
  | .overflowArea => { extractor := ⟨tracker.config.payloadByteCount.toNat⟩ : OverflowIntake }.sighting? report

/-- What a deed leaves; nothing where the program would abort. -/
def attempt? (tracker : Tracker) : Deed → Option Tracker
  | .act .start =>
      match tracker.start with
      | .ok _ => some (tracker.act .start).2
      | .error _ => none
  | .act action => some (tracker.act action).2
  | .report id how report => do
      match screen (← tracker.found? id.path report) with
      | some sighting => some (tracker.offer id how sighting).2
      | none => some tracker

def attemptAll? (tracker : Tracker) : List Deed → Option Tracker
  | [] => some tracker
  | deed :: rest => do
      let tracker ← tracker.attempt? deed
      tracker.attemptAll? rest

end BeaconWatch.Tracker
