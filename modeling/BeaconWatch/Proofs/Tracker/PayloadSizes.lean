import BeaconWatch.Proofs.Intake.Handling
import BeaconWatch.Proofs.Overflow.Sightings
import BeaconWatch.Proofs.Tracker.Generations
import BeaconWatch.Proofs.Tracker.Safety

/-!
Payloads of another size than five bytes. They pass the checks of a configuration and are extracted like any other,
but no identity is read from them: an intake for such a size never has anything to send, and a tracker with it
hears nothing on that path.
-/

set_option autoImplicit false

namespace BeaconWatch

theorem Overflow.Extractor.identify_ne_some {extractor : Extractor} (other : extractor.payloadBytes ≠ 5) (raw : Bytes)
    (identity : BeaconIdentity) : extractor.identify raw ≠ .ok (some identity) := by
  intro identified
  obtain ⟨payload, inspected, read⟩ := (extractor.identify_eq_some_iff raw identity).mp identified
  have size := (inspect_eq_payload_iff.mp inspected).2.1
  exact other (size.symm.trans (length_of_interpret read))

theorem OverflowIntake.screen_sighting {intake : OverflowIntake} (other : intake.extractor.payloadBytes ≠ 5)
    (report : AdvertisementReport) : screen (intake.sighting report) = none := by
  rw [Option.eq_none_iff_forall_ne_some]
  intro sighting screened
  have found := screen_eq_some_iff.mp screened
  obtain ⟨raw, -, identity, identified, -⟩ := (intake.sighting_eq_some_iff report sighting).mp found
  exact intake.extractor.identify_ne_some other raw identity identified

namespace Tracker

variable {tracker after next : Tracker} {deed : Deed} {deeds : List Deed}

theorem found_congr (same : next.config = tracker.config) (path : IntakePath) (report : AdvertisementReport) :
    next.found path report = tracker.found path report := by
  cases path <;> simp only [found, same]

theorem action?_congr (same : next.config = tracker.config) : next.action? = tracker.action? := by
  funext deed
  cases deed with
  | act => rfl
  | report => rw [action?, action?, found_congr same]

/-- A deed that does not abort comes to its action, if it has one. -/
theorem attempt?_eq_some (small : tracker.config.payloadByteCount.toNat ≤ Overflow.maxPayloadBytes)
    (attempted : tracker.attempt? deed = some next) :
    next = (tracker.run (tracker.action? deed).toList).2 := by
  cases deed with
  | act action =>
    have acted : next = (tracker.act action).2 := by
      cases action with
      | start =>
        cases starts : tracker.start <;> simp [attempt?, starts] at attempted
        exact attempted.symm
      | _ => exact (Option.some.inj attempted).symm
    simpa [action?] using acted
  | report id how report =>
    cases found : screen (tracker.found id.path report) with
    | none =>
      simp only [attempt?, found?_eq small, Option.bind_eq_bind, Option.bind_some, found] at attempted
      simpa [action?, found] using attempted.symm
    | some sighting =>
      simp only [attempt?, found?_eq small, Option.bind_eq_bind, Option.bind_some, found] at attempted
      simpa [action?, found, act_send_snd] using attempted.symm

theorem attemptAll?_cons_eq_some {rest : List Deed} (attempted : tracker.attemptAll? (deed :: rest) = some after) :
    ∃ next, tracker.attempt? deed = some next ∧ next.attemptAll? rest = some after :=
  Option.bind_eq_some_iff.mp attempted

/-- A run of deeds that does not abort is the run of their actions. -/
theorem attemptAll?_eq_some (small : tracker.config.payloadByteCount.toNat ≤ Overflow.maxPayloadBytes)
    (attempted : tracker.attemptAll? deeds = some after) :
    after = (tracker.run (deeds.filterMap tracker.action?)).2 := by
  induction deeds generalizing tracker with
  | nil => exact (Option.some.inj attempted).symm
  | cons deed rest ih =>
    obtain ⟨next, first, others⟩ := attemptAll?_cons_eq_some attempted
    have stepped := attempt?_eq_some small first
    have same : next.config = tracker.config := by
      rw [stepped]
      exact config_run ..
    have later := ih (same ▸ small) others
    rw [action?_congr same] at later
    have split : (deed :: rest).filterMap tracker.action? =
        (tracker.action? deed).toList ++ rest.filterMap tracker.action? := by
      cases found : tracker.action? deed <;> simp [found]
    rw [split, run_append, ← stepped]
    exact later

theorem Effect.accepted_eq_nil {action : Action} {event? : Option Event} {id : PumpId}
    (effect : Effect tracker action event? next) (unsent : ∀ how sighting, action ≠ .send id how sighting) :
    accepted id event?.toList = [] := by
  cases effect with
  | @sent other _ how sighting =>
    have different : other ≠ id := by
      rintro rfl
      exact unsent how sighting rfl
    simp [accepted, different]
  | _ => rfl

theorem accepted_run_eq_nil {actions : List Action} {id : PumpId}
    (unsent : ∀ how sighting, .send id how sighting ∉ actions) : accepted id (tracker.run actions).1 = [] := by
  induction actions generalizing tracker with
  | nil => rfl
  | cons action rest ih =>
    have first : accepted id (tracker.act action).1.toList = [] := by
      apply (tracker.effect_act action).accepted_eq_nil
      intro how sighting same
      exact unsent how sighting (by simp [same])
    have later := @ih (tracker.act action).2 fun how sighting member =>
      unsent how sighting (List.mem_cons_of_mem _ member)
    rw [run_cons, accepted_append, first, later, List.append_nil]

theorem about_eq_nil_iff {events : List Event} {id : PumpId} :
    about id events = [] ↔ accepted id events = [] ∧ recorded id events = [] := by
  simp only [about, accepted, recorded, List.filter_eq_nil_iff, List.filterMap_eq_nil_iff, ← forall₂_and]
  refine forall₂_congr fun event _ => ?_
  cases event <;> simp [Event.isAbout]

-- What a pump records its path has accepted, so nothing at all is heard on a path on which nothing is sent.
theorem about_run_eq_nil {events : List Event} (accounts : tracker.Accounts events) {id : PumpId}
    (unheard : accepted id events = []) {actions : List Action}
    (unsent : ∀ how sighting, .send id how sighting ∉ actions) : about id (tracker.run actions).1 = [] := by
  have refused : accepted id (tracker.run actions).1 = [] := accepted_run_eq_nil unsent
  have ordered := (accounts.run actions).ordered id
  rw [accepted_append, unheard, refused, List.append_nil, List.prefix_nil, recorded_append,
    List.append_eq_nil_iff] at ordered
  exact about_eq_nil_iff.mpr ⟨refused, ordered.2⟩

section

variable (silent : ∀ report, screen (tracker.found .overflowArea report) = none)

include silent

theorem attempt?_of_silent (small : tracker.config.payloadByteCount.toNat ≤ Overflow.maxPayloadBytes)
    (reports : deed.reports .overflowArea = true) : tracker.attempt? deed = some tracker := by
  cases deed with
  | act => cases reports
  | report id how report =>
    have path : id.path = .overflowArea := of_decide_eq_true reports
    simp [attempt?, found?_eq small, path, silent]

/-- The reports to silent intakes can be left out of a run. -/
theorem attemptAll?_filter (small : tracker.config.payloadByteCount.toNat ≤ Overflow.maxPayloadBytes)
    (deeds : List Deed) :
    tracker.attemptAll? deeds = tracker.attemptAll? (deeds.filter fun deed => !deed.reports .overflowArea) := by
  induction deeds generalizing tracker with
  | nil => rfl
  | cons deed rest ih =>
    cases reports : deed.reports .overflowArea with
    | true =>
      simp only [attemptAll?, attempt?_of_silent silent small reports, Option.bind_eq_bind, Option.bind_some,
        List.filter_cons, reports, Bool.not_true, Bool.false_eq_true, if_false]
      exact ih silent small
    | false =>
      simp only [attemptAll?, List.filter_cons, reports, Bool.not_false, if_true, Option.bind_eq_bind]
      cases attempted : tracker.attempt? deed with
      | none => rfl
      | some next =>
        have same : next.config = tracker.config := by
          rw [attempt?_eq_some small attempted]
          exact config_run ..
        exact ih (fun report => (found_congr same _ report).symm ▸ silent report) (same ▸ small)

-- The sends of the deeds are those that are done without a report.
theorem mem_of_send_mem_actions {id : PumpId} {how : Waiting} {sighting : Sighting} (path : id.path = .overflowArea)
    (member : .send id how sighting ∈ deeds.filterMap tracker.action?) : .act (.send id how sighting) ∈ deeds := by
  obtain ⟨deed, member, same⟩ := List.mem_filterMap.mp member
  cases deed with
  | act action =>
    cases same
    exact member
  | report other how report =>
    obtain ⟨found, carried, sends⟩ := Option.map_eq_some_iff.mp same
    cases sends
    rw [path, silent] at carried
    cases carried

end

theorem payload_le_of_create {config : TrackerConfig} {callback : Option Callback}
    (created : Tracker.create config callback = .ok tracker) :
    config.payloadByteCount.toNat ≤ Overflow.maxPayloadBytes := by
  cases valid : config.validate with
  | ok => exact (config.validate_eq_ok_iff.mp valid).2.1.2
  | error =>
    rw [create, valid] at created
    cases created

end Tracker

namespace Session

theorem config_run {session next : Session} {commands : List Command} {answers : List (Response × List Polled)}
    (ran : session.run commands = .ok (answers, next)) : next.tracker.config = session.tracker.config := by
  apply run_invariant (P := fun next => next.tracker.config = session.tracker.config) _ ran rfl
  intro _ _ _ _ _ stepped kept
  apply (reaches_step stepped).invariant (P := fun tracker => tracker.config = session.tracker.config) _ kept
  intro _ _ _ _ _ effect still
  exact effect.config_eq.trans still

variable {session : Session} (silent : ∀ report, screen (session.tracker.found .overflowArea report) = none)

include silent

theorem handleAll_of_silent (index : Nat) (how : Waiting) (reports : List AdvertisementReport) :
    session.handleAll ⟨index, .overflowArea⟩ how reports = (reports.map fun _ => .ignored, [], session) := by
  have first (report : AdvertisementReport) :
      session.handle ⟨index, .overflowArea⟩ how report = (.ignored, [], session) := by
    rw [handle, silent]
  induction reports with
  | nil => rfl
  | cons report rest ih =>
    simp only [handleAll, first, ih]
    rfl

theorem step_report_of_silent (settled : session.IsSettled) (generation? : Option Nat) (how : Waiting)
    (reports : List AdvertisementReport) : ∃ turns next,
      session.step (.report generation? .overflowArea how reports) =
        .ok (if (session.intakes? generation?).isSome then .handled (reports.map fun _ => .ignored) else .noIntake,
          turns, next) ∧ session.Unmoved turns next := by
  refine ⟨session.settle.1, session.settle.2, ?_, unmoved_settle settled⟩
  cases held : session.intakes? generation? with
  | none => simp only [step, perform, held]; rfl
  | some index => simp only [step, perform, held, handleAll_of_silent silent]; rfl

end Session

/-- No identity is read from payloads of another size than five bytes. An intake for such a size answers every report
alike, whatever the state of its channel, and sends nothing. Reports to it change nothing in any run of a tracker;
where nothing else is sent on its path, nothing is accepted, recorded or shown there. -/
theorem only_five_bytes_identify {n : Nat} (small : n ≤ 2 ^ 60 - 9) (other : n ≠ 5) :
    (∀ raw, ∃ found, Overflow.Extractor.identify? ⟨n⟩ raw = some found ∧ ∀ identity, found ≠ .ok (some identity)) ∧
      (∀ report, ∃ found, OverflowIntake.sighting? ⟨⟨n⟩⟩ report = some found ∧
        ∀ how channel, handleFound found how channel = (.ignored, channel)) ∧
      ∀ (config : TrackerConfig) callback tracker, config.payloadByteCount.toNat = n →
        Tracker.create config callback = .ok tracker →
        (∀ deeds, tracker.attemptAll? deeds =
            tracker.attemptAll? (deeds.filter fun deed => !deed.reports .overflowArea) ∧
          ∀ after, tracker.attemptAll? deeds = some after →
            ∃ events, tracker.run (deeds.filterMap tracker.action?) = (events, after) ∧
              ∀ id, id.path = .overflowArea → (∀ how sighting, .act (.send id how sighting) ∉ deeds) →
                Tracker.about id events = []) ∧
        ∀ clock commands answers session,
          Session.run { tracker := tracker, clock := clock } commands = .ok (answers, session) →
          ∀ generation? how reports, ∃ turns next,
            session.step (.report generation? .overflowArea how reports) =
              .ok (if (session.intakes? generation?).isSome then .handled (reports.map fun _ => .ignored)
                else .noIntake, turns, next) ∧ session.Unmoved turns next := by
  refine ⟨?_, ?_, ?_⟩
  · intro raw
    exact ⟨_, Overflow.Extractor.identify?_eq small raw, Overflow.Extractor.identify_ne_some other raw⟩
  · intro report
    exact ⟨_, OverflowIntake.sighting?_eq small report, handleFound_of_silent (OverflowIntake.screen_sighting other report)⟩
  · intro config callback tracker size created
    have same : tracker.config = config := by rw [Tracker.create_eq_ok created]
    have fits : tracker.config.payloadByteCount.toNat ≤ Overflow.maxPayloadBytes := by
      rw [same]
      exact Tracker.payload_le_of_create created
    have silent (report : AdvertisementReport) : screen (tracker.found .overflowArea report) = none := by
      apply OverflowIntake.screen_sighting
      rwa [same, size]
    refine ⟨?_, ?_⟩
    · intro deeds
      refine ⟨Tracker.attemptAll?_filter silent fits deeds, ?_⟩
      intro after attempted
      refine ⟨_, Prod.ext rfl (Tracker.attemptAll?_eq_some fits attempted).symm, ?_⟩
      intro id path unsent
      apply Tracker.about_run_eq_nil (Tracker.accounts_create created) rfl
      intro how sighting member
      exact unsent how sighting (Tracker.mem_of_send_mem_actions silent path member)
    · intro clock commands answers session ran
      have settled := ((Session.isOrderly_create created clock).run ran).settled
      exact Session.step_report_of_silent
        (fun report => (Tracker.found_congr (Session.config_run ran) _ report).symm ▸ silent report) settled

-- The bytes of a payload for five, and one more.
theorem only_five_bytes_identify_six :
    let raw : Bytes := Overflow.blankHeader ++ [0xda, 0x51, 0x02, 0x02, 0xe2, 0x1a, 0x8c, 0x02]
    let report : AdvertisementReport := .apple "" (-60) (0x01 :: raw)
    let config : TrackerConfig := { payloadByteCount := 6 }
    6 ≤ 2 ^ 60 - 9 ∧ 6 ≠ 5 ∧
      Overflow.inspect? 6 raw = some (.ok (.payload [0x00, 0x02, 0x1e, 0x61, 0xc5, 0x00])) ∧
      Overflow.Extractor.identify? ⟨6⟩ raw = some (.ok none) ∧
      ∃ tracker, Tracker.create config none = .ok tracker ∧
        ∃ after, tracker.attemptAll? [.act .start, .report ⟨0, .overflowArea⟩ .suspended report, .act .cancel,
            .report ⟨0, .overflowArea⟩ .suspended report] = some after ∧
          tracker.attemptAll? [.act .start, .act .cancel] = some after := by
  intro raw report config
  have received : Overflow.inspect? 6 raw = some (.ok (.payload [0x00, 0x02, 0x1e, 0x61, 0xc5, 0x00])) := by
    decide +kernel
  have identified : Overflow.Extractor.identify? ⟨6⟩ raw = some (.ok none) := by decide +kernel
  obtain ⟨-, -, silent⟩ := only_five_bytes_identify (n := 6) (by decide) (by decide)
  have created : Tracker.create config none =
      .ok { config := config, registry := { expiration := config.expiration }, callback := none } := rfl
  obtain ⟨deeds, -⟩ := silent config none _ rfl created
  obtain ⟨same, -⟩ := deeds [.act .start, .report ⟨0, .overflowArea⟩ .suspended report, .act .cancel,
    .report ⟨0, .overflowArea⟩ .suspended report]
  exact ⟨by decide, by decide, received, identified, _, created, _, same, rfl⟩

end BeaconWatch
