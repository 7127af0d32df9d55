import BeaconWatch.Proofs.Overflow.Sightings
import BeaconWatch.Proofs.Overflow.Window

/-!
Which intake hears a report. The two ask for different kinds of Apple body, so no report is sighted by both; they look
at nothing else but the signal strength, and a frame that is cut off is the same error for both.
-/

set_option autoImplicit false

namespace BeaconWatch

namespace AdvertisementReport

variable {report other : AdvertisementReport}

theorem classify_congr (same : other.appleBody? = report.appleBody?) : other.classify = report.classify := by
  rw [classify, classify, same]

theorem kindOfOtherBody_ne_iBeacon (body : Bytes) (frame : IBeaconFrame) : kindOfOtherBody body ≠ .iBeacon frame := by
  cases body with
  | nil => simp [kindOfOtherBody]
  | cons first rest => by_cases marked : first = overflowMarker <;> simp [kindOfOtherBody, marked]

theorem classify_eq_iBeacon_iff {frame : IBeaconFrame} : report.classify = .ok (.iBeacon frame) ↔
    ∃ body, report.appleBody? = some body ∧ IBeaconFrame.parse body = .ok (some frame) := by
  rw [classify]
  cases report.appleBody? with
  | none => simp
  | some body =>
    rcases read : IBeaconFrame.parse body with _ | _ | _ <;> simp [kindOfBody, read, kindOfOtherBody_ne_iBeacon]

end AdvertisementReport

namespace IBeaconIntake

variable {intake : IBeaconIntake} {report other : AdvertisementReport}

theorem sighting_eq_some_iff {sighting : Sighting} : intake.sighting report = .ok (some sighting) ↔
    ∃ frame, report.classify = .ok (.iBeacon frame) ∧ frame.uuid = intake.uuid ∧
      sighting = .of frame.identity report.rssi .iBeacon := by
  rw [IBeaconIntake.sighting]
  rcases report.classify with error | frame | raw | _
  next => simp
  next =>
    by_cases ours : frame.uuid = intake.uuid
    next => simp [ours, eq_comm]
    next => simp [ours]
  next => simp
  next => simp

theorem sighting_eq_error_iff {error : Error} :
    intake.sighting report = .error error ↔ report.classify = .error error := by
  rw [IBeaconIntake.sighting]
  rcases report.classify with other | frame | raw | _
  next => simp
  next => by_cases ours : frame.uuid = intake.uuid <;> simp [ours]
  next => simp
  next => simp

theorem sighting_congr (rssi : other.rssi = report.rssi) (body : other.appleBody? = report.appleBody?) :
    intake.sighting other = intake.sighting report := by
  rw [IBeaconIntake.sighting, IBeaconIntake.sighting, AdvertisementReport.classify_congr body, rssi]

end IBeaconIntake

theorem Overflow.Extractor.identify_eq_error_iff {extractor : Extractor} {raw : Bytes} {error : Error} :
    extractor.identify raw = .error error ↔ raw.length < requiredLength extractor.payloadBytes ∧
      error = .malformedInput (requiredLength extractor.payloadBytes) raw.length := by
  rw [← inspect_eq_error_iff]
  cases inspected : Overflow.inspect extractor.payloadBytes raw with
  | error cause => simp [identify, extract, Overflow.extract, inspected, Except.map]
  | ok found => simp [identify_of_inspect inspected]

namespace OverflowIntake

open AdvertisementReport Overflow

variable {intake : OverflowIntake} {report other : AdvertisementReport}

theorem sighting_eq_error_iff {error : Error} : intake.sighting report = .error error ↔
    report.classify = .error error ∨
      ∃ raw, report.appleBody? = some (overflowMarker :: raw) ∧ intake.extractor.identify raw = .error error := by
  simp only [← classify_eq_overflowArea_iff, OverflowIntake.sighting]
  rcases report.classify with cause | frame | raw | _
  next => simp
  next => simp
  next => cases found : intake.extractor.identify raw <;> simp [found, Except.map]
  next => simp

theorem sighting_congr (rssi : other.rssi = report.rssi) (body : other.appleBody? = report.appleBody?) :
    intake.sighting other = intake.sighting report := by
  rw [OverflowIntake.sighting, OverflowIntake.sighting, classify_congr body, rssi]

end OverflowIntake

section

open AdvertisementReport Overflow

variable {intake : IBeaconIntake} {listener : OverflowIntake} {report : AdvertisementReport}

-- A sighting tells which kind of body was reported, and a report has one kind.
theorem not_sighted_twice {direct overflow : Sighting} (heard : intake.sighting report = .ok (some direct))
    (heardToo : listener.sighting report = .ok (some overflow)) : False := by
  obtain ⟨frame, kind, -⟩ := IBeaconIntake.sighting_eq_some_iff.mp heard
  obtain ⟨raw, body, -⟩ := (listener.sighting_eq_some_iff report overflow).mp heardToo
  have other := (classify_eq_overflowArea_iff report raw).mpr body
  simp [kind] at other

theorem overflow_error_alone_iff : ((∃ error, listener.sighting report = .error error) ∧
      ∀ error, intake.sighting report ≠ .error error) ↔
    ∃ body, report.appleBody? = some body ∧ [overflowMarker] <+: body ∧
      body.length < requiredLength listener.extractor.payloadBytes + 1 := by
  constructor
  next =>
    intro ⟨⟨error, failed⟩, alone⟩
    rcases OverflowIntake.sighting_eq_error_iff.mp failed with shared | ⟨raw, body, failed⟩
    next => exact absurd (IBeaconIntake.sighting_eq_error_iff.mpr shared) (alone error)
    next =>
      have short := (Extractor.identify_eq_error_iff.mp failed).1
      exact ⟨_, body, List.prefix_append [overflowMarker] raw, Nat.succ_lt_succ short⟩
  next =>
    intro ⟨_, body, ⟨raw, same⟩, short⟩
    subst same
    have kind := (classify_eq_overflowArea_iff report raw).mpr body
    have few : raw.length < requiredLength listener.extractor.payloadBytes := Nat.lt_of_succ_lt_succ short
    have failed := Extractor.identify_eq_error_iff.mpr ⟨few, rfl⟩
    refine ⟨⟨_, OverflowIntake.sighting_eq_error_iff.mpr (.inr ⟨raw, body, failed⟩)⟩, ?_⟩
    intro error shared
    simp [IBeaconIntake.sighting_eq_error_iff.mp shared] at kind

/-- Both intakes answer every report, at most one of them with a sighting. They fail alike but for an overflow area that
is too short, agree on any two reports with one Apple body and one signal strength, and an iBeacon is sighted just when
its frame has the intake's UUID. -/
theorem routed_by_body {n : Nat} (small : n ≤ 2 ^ 60 - 9) (uuid : ProximityUuid) (report : AdvertisementReport) :
    ∃ direct overflow, IBeaconIntake.sighting? ⟨uuid⟩ report = some direct ∧
      OverflowIntake.sighting? ⟨⟨n⟩⟩ report = some overflow ∧
      ¬ ((∃ sighting, direct = .ok (some sighting)) ∧ ∃ sighting, overflow = .ok (some sighting)) ∧
      (∀ error, direct = .error error → overflow = .error error) ∧
      (((∃ error, overflow = .error error) ∧ ∀ error, direct ≠ .error error) ↔
        ∃ body, report.manufacturerData.body? 0x004C = some body ∧ [0x01] <+: body ∧
          body.length < requiredLength n + 1) ∧
      (∀ other : AdvertisementReport, other.rssi = report.rssi →
        other.manufacturerData.body? 0x004C = report.manufacturerData.body? 0x004C →
        IBeaconIntake.sighting? ⟨uuid⟩ other = some direct ∧ OverflowIntake.sighting? ⟨⟨n⟩⟩ other = some overflow) ∧
      ∀ sighting, direct = .ok (some sighting) ↔
        ∃ body frame, report.manufacturerData.body? 0x004C = some body ∧
          IBeaconFrame.parse? body = some (.ok (some frame)) ∧ frame.uuid = uuid ∧
          sighting = .of frame.identity report.rssi .iBeacon := by
  have sized : (⟨⟨n⟩⟩ : OverflowIntake).extractor.payloadBytes ≤ 2 ^ 60 - 9 := small
  simp only [IBeaconIntake.sighting?_eq, OverflowIntake.sighting?_eq sized, IBeaconFrame.parse?_eq, Option.some.injEq]
  refine ⟨_, _, rfl, rfl, ?_, ?_, overflow_error_alone_iff, ?_, ?_⟩
  next =>
    intro ⟨⟨direct, heard⟩, overflow, heardToo⟩
    exact not_sighted_twice heard heardToo
  next =>
    intro error failed
    exact OverflowIntake.sighting_eq_error_iff.mpr (.inl (IBeaconIntake.sighting_eq_error_iff.mp failed))
  next =>
    intro other rssi body
    exact ⟨IBeaconIntake.sighting_congr rssi body, OverflowIntake.sighting_congr rssi body⟩
  next =>
    intro sighting
    rw [IBeaconIntake.sighting_eq_some_iff]
    simp only [classify_eq_iBeacon_iff]
    constructor
    next =>
      intro ⟨frame, ⟨body, apple, read⟩, ours, made⟩
      exact ⟨body, frame, apple, read, ours, made⟩
    next =>
      intro ⟨body, frame, apple, read, ours, made⟩
      exact ⟨frame, ⟨body, apple, read⟩, ours, made⟩

-- A frame beside another company's body, and a frame that is cut off.
theorem routed_by_body_fleet :
    let frame : IBeaconFrame := ⟨.fleet, 2, 7777, -59⟩
    let alone : AdvertisementReport := .apple "alone" (-60) frame.toBytes
    let crowded : AdvertisementReport := ⟨"crowded", -60, [(0x0059, [0x01, 0x02]), (0x004C, frame.toBytes)]⟩
    5 ≤ 2 ^ 60 - 9 ∧ crowded.rssi = alone.rssi ∧
      crowded.manufacturerData.body? 0x004C = alone.manufacturerData.body? 0x004C ∧
      IBeaconIntake.sighting? ⟨.fleet⟩ crowded = some (.ok (some ⟨2, 7777, -59, -60, .iBeacon⟩)) ∧
      (∃ overflow, OverflowIntake.sighting? ⟨⟨5⟩⟩ crowded = some overflow ∧
        ¬ ∃ sighting, overflow = .ok (some sighting)) ∧
      IBeaconIntake.sighting? ⟨.fleet⟩ (.apple "" 0 [0x02, 0x15]) = some (.error (.malformedInput 23 2)) ∧
      OverflowIntake.sighting? ⟨⟨5⟩⟩ (.apple "" 0 [0x02, 0x15]) = some (.error (.malformedInput 23 2)) := by
  intro frame alone crowded
  have same : crowded.manufacturerData.body? 0x004C = alone.manufacturerData.body? 0x004C := by decide
  obtain ⟨direct, overflow, -, -, once, -, -, agree, heard⟩ := routed_by_body (n := 5) (by decide) .fleet alone
  have sighted := (heard ⟨2, 7777, -59, -60, .iBeacon⟩).mpr ⟨frame.toBytes, frame, by decide, by decide, rfl, by decide⟩
  obtain ⟨there, thereToo⟩ := agree crowded rfl same
  have cut : IBeaconIntake.sighting? ⟨.fleet⟩ (.apple "" 0 [0x02, 0x15]) = some (.error (.malformedInput 23 2)) := by
    decide
  obtain ⟨failed, failedToo, first, second, -, shared, -⟩ :=
    routed_by_body (n := 5) (by decide) .fleet (.apple "" 0 [0x02, 0x15])
  obtain rfl : .error (.malformedInput 23 2) = failed := Option.some.inj (cut.symm.trans first)
  rw [shared _ rfl] at second
  rw [sighted] at there
  exact ⟨by decide, rfl, same, there, ⟨overflow, thereToo, fun other => once ⟨⟨_, sighted⟩, other⟩⟩, cut, second⟩

end

end BeaconWatch
