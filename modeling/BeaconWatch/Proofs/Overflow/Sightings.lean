import BeaconWatch.Intake
import BeaconWatch.Proofs.Overflow.Framing
import BeaconWatch.Proofs.Overflow.Identity

/-!
Sightings on the overflow path. An overflow area of default size gives a sighting exactly when its
codeword is near the one that some identity's payload is sent in.
-/

set_option autoImplicit false

namespace BeaconWatch

namespace AdvertisementReport

theorem kindOfBody_eq_overflowArea_iff (body raw : Bytes) :
    kindOfBody body = .ok (.overflowArea raw) ↔ body = overflowMarker :: raw := by
  constructor
  · intro kind
    rw [kindOfBody] at kind
    split at kind
    case h_1 => cases kind
    case h_3 => cases kind
    case h_2 =>
      match body, kind with
      | first :: rest, kind =>
        rw [kindOfOtherBody] at kind
        split at kind
        case isTrue marked =>
          cases kind
          rw [marked]
        case isFalse => cases kind
  · rintro rfl
    rfl

theorem classify_eq_overflowArea_iff (report : AdvertisementReport) (raw : Bytes) :
    report.classify = .ok (.overflowArea raw) ↔ report.appleBody? = some (overflowMarker :: raw) := by
  rw [classify]
  cases report.appleBody? with
  | none => simp
  | some body => simp [kindOfBody_eq_overflowArea_iff]

end AdvertisementReport

namespace Overflow

open BeaconWatch.Hamming

theorem Extractor.identify_eq_some_iff (extractor : Extractor) (raw : Bytes) (identity : BeaconIdentity) :
    extractor.identify raw = .ok (some identity) ↔
      ∃ payload, Overflow.inspect extractor.payloadBytes raw = .ok (.payload payload) ∧
        interpret payload = some identity := by
  rw [identify, extract, Overflow.extract]
  cases Overflow.inspect extractor.payloadBytes raw with
  | error error => simp [Except.map]
  | ok found => cases found <;> simp [Except.map, Extraction.payload?]

end Overflow

namespace OverflowIntake

open AdvertisementReport Overflow BeaconWatch.Hamming

theorem sighting_eq_some_iff (intake : OverflowIntake) (report : AdvertisementReport) (sighting : Sighting) :
    intake.sighting report = .ok (some sighting) ↔
      ∃ raw, report.appleBody? = some (overflowMarker :: raw) ∧
        ∃ identity, intake.extractor.identify raw = .ok (some identity) ∧
          sighting = .of identity report.rssi .overflowArea := by
  simp only [← classify_eq_overflowArea_iff, OverflowIntake.sighting]
  cases report.classify with
  | error error => simp
  | ok kind =>
    cases kind with
    | iBeacon frame => simp
    | other => simp
    | overflowArea raw =>
      cases found : intake.extractor.identify raw with
      | error error => simp [found, Except.map]
      | ok identity? => cases identity? <;> simp [found, Except.map, eq_comm]

theorem sightingInWords_eq (report : AdvertisementReport) {intake : OverflowIntake}
    (small : intake.extractor.payloadBytes ≤ 2 ^ 60 - 9) :
    intake.sightingInWords report = .ok (intake.sighting report) := by
  rw [sightingInWords]
  split
  · rw [Extractor.inWords, requiredLength?_eq small]
  · rfl

/-- Exactly the areas near a sent identity are sighted, and with that identity. What was sighted can be
sent again. -/
theorem default_sighting_iff (report : AdvertisementReport) (sighting : Sighting) :
    (sightingInWords {} report = .ok (.ok (some sighting)) ↔
      ∃ raw, report.manufacturerData.body? 0x004C = some (0x01 :: raw) ∧ 15 ≤ raw.length ∧
        ∃ identity : BeaconIdentity, -256 ≤ identity.txPower.toInt ∧ identity.txPower.toInt ≤ -1 ∧
          sighting = .of identity report.rssi .overflowArea ∧
          ∃ payload sent, identityPayload identity = .ok payload ∧ encodePayload 5 payload = .ok sent ∧
            Near (wireBits 5 raw) (wireBits 5 sent)) ∧
      (sightingInWords {} report = .ok (.ok (some sighting)) →
        ∃ payload, identityPayload ⟨sighting.major, sighting.minor, sighting.txPower⟩ = .ok payload) := by
  rw [sightingInWords_eq report (by decide), Except.ok.injEq, sighting_eq_some_iff]
  simp only [Extractor.identify_eq_some_iff, inspect_eq_payload_iff_sent, ← identityPayload_eq_ok_iff]
  constructor
  · constructor
    · rintro ⟨raw, body, identity, ⟨payload, ⟨long, sent, encoded, near⟩, written⟩, made⟩
      have range := interpret_mem ((identityPayload_eq_ok_iff _ _).mp written)
      exact ⟨raw, body, long, identity, range.1, range.2, made, payload, sent, written, encoded, near⟩
    · rintro ⟨raw, body, long, identity, _, _, made, payload, sent, written, encoded, near⟩
      exact ⟨raw, body, identity, ⟨payload, ⟨long, sent, encoded, near⟩, written⟩, made⟩
  · rintro ⟨raw, _, identity, ⟨payload, _, written⟩, rfl⟩
    exact ⟨payload, written⟩

theorem default_sighting_captured :
    sightingInWords {} (.apple "" (-60) (0x01 :: captured)) = .ok (.ok (some ⟨2, 7777, -59, -60, .overflowArea⟩)) ∧
      ∃ payload, identityPayload ⟨2, 7777, -59⟩ = .ok payload := by
  have seen : sightingInWords {} (.apple "" (-60) (0x01 :: captured)) =
      .ok (.ok (some ⟨2, 7777, -59, -60, .overflowArea⟩)) := by
    decide +kernel
  exact ⟨seen, (default_sighting_iff _ _).2 seen⟩

example : requiredLength 5 = 15 ∧ windowBits 5 = 54 ∧ codewordBits 5 = 55 := by decide

end OverflowIntake

end BeaconWatch
