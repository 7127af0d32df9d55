import BeaconWatch.Intake.Checked
import BeaconWatch.Proofs.IBeaconFrame
import BeaconWatch.Proofs.Overflow.Reception

/-!
No report takes an intake out of the bounds of a buffer or of a word.
-/

set_option autoImplicit false

namespace BeaconWatch

theorem AdvertisementReport.kindOfOtherBody?_eq (body : Bytes) : kindOfOtherBody? body = some (kindOfOtherBody body) := by
  cases body with
  | nil => rfl
  | cons first rest => by_cases marked : first = overflowMarker <;>
      simp [kindOfOtherBody?, kindOfOtherBody, marked, Overflow.cutAt?]

theorem AdvertisementReport.classify?_eq (report : AdvertisementReport) : report.classify? = some report.classify := by
  rw [classify?, classify]
  cases report.appleBody? with
  | none => rfl
  | some body =>
    simp only [IBeaconFrame.parse?_eq, Option.bind_eq_bind, Option.bind_some, kindOfBody, kindOfOtherBody?_eq]
    rcases IBeaconFrame.parse body with error | _ | frame <;> rfl

namespace Overflow

theorem interpret?_eq (payload : Bytes) : interpret? payload = some (interpret payload) := by
  match payload with
  | [_, _, _, _, _] => rfl
  | [] | [_] | [_, _] | [_, _, _] | [_, _, _, _] => rfl
  | _ :: _ :: _ :: _ :: _ :: _ :: _ => simp [interpret?, interpret, defaultPayloadBytes]

theorem Extractor.identify?_eq {extractor : Extractor} (small : extractor.payloadBytes ≤ 2 ^ 60 - 9) (raw : Bytes) :
    extractor.identify? raw = some (extractor.identify raw) := by
  rw [identify?, extract?_eq small, identify, extract]
  rcases Overflow.extract extractor.payloadBytes raw with error | _ | payload
  · rfl
  · rfl
  · simp [interpret?_eq, Except.map]

end Overflow

theorem IBeaconIntake.sighting?_eq (intake : IBeaconIntake) (report : AdvertisementReport) :
    intake.sighting? report = some (intake.sighting report) := by
  simp only [sighting?, sighting, AdvertisementReport.classify?_eq, Option.bind_eq_bind, Option.bind_some]
  rcases report.classify with error | frame | raw | _
  · rfl
  · by_cases same : frame.uuid = intake.uuid <;> simp [same]
  · rfl
  · rfl

theorem OverflowIntake.sighting?_eq {intake : OverflowIntake} (small : intake.extractor.payloadBytes ≤ 2 ^ 60 - 9)
    (report : AdvertisementReport) : intake.sighting? report = some (intake.sighting report) := by
  simp only [sighting?, sighting, AdvertisementReport.classify?_eq, Option.bind_eq_bind, Option.bind_some]
  rcases report.classify with error | frame | raw | _
  · rfl
  · rfl
  · simp only [Overflow.Extractor.identify?_eq small, Option.map_some]
  · rfl

end BeaconWatch
