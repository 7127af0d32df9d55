import BeaconWatch.Proofs.Intake.Checked
import BeaconWatch.Proofs.Tracker.Lifecycle
import BeaconWatch.Proofs.Tracker.Commands
import BeaconWatch.Proofs.TrackerConfig
import BeaconWatch.Tracker.Checked

/-!
What a configuration that passes its checks makes safe. The checks leave out the largest capacity that a channel
can have; within it nothing that is done to a tracker, and no report, makes it abort.
-/

set_option autoImplicit false

namespace BeaconWatch

namespace Tracker

variable {tracker next : Tracker} {action : Action} {event? : Option Event} {config : TrackerConfig}
  {callback : Option Callback}

theorem create_of_valid (valid : config.validate = .ok ()) (callback : Option Callback) :
    Tracker.create config callback =
      .ok { config := config, registry := { expiration := config.expiration }, callback := callback } := by
  rw [create, valid]
  rfl

-- A start that is not refused aborts just when no channel can be that large.
theorem start_eq_error_iff {abort : Abort} : tracker.start = .error abort ↔
    tracker.isRunning = false ∧ ¬ Channel.IsUsable tracker.config.channelCapacity.toNat ∧
      abort = .capacityOutOfRange := by
  rw [start]
  split
  case isTrue running => simp [running]
  case isFalse idle =>
    have aborts : Channel.create Sighting tracker.config.channelCapacity.toNat 1 = .error abort ↔
        ¬ Channel.IsUsable tracker.config.channelCapacity.toNat ∧ abort = .capacityOutOfRange :=
      Channel.create_eq_error_iff
    rw [← aborts]
    cases Channel.create Sighting tracker.config.channelCapacity.toNat 1 <;> simp [Except.map, idle]

/-- Nothing in the configuration or the callback of the tracker can bring it down. -/
structure IsSafe (tracker : Tracker) : Prop where
  usable : Channel.IsUsable tracker.config.channelCapacity.toNat
  payload : tracker.config.payloadByteCount.toNat ≤ Overflow.maxPayloadBytes
  returns : ∀ call, tracker.callback = some call → ∀ registry sighting, call registry sighting = .returns
  inOrder : tracker.InOrder

theorem IsSafe.effect (safe : tracker.IsSafe) (effect : Effect tracker action event? next) : next.IsSafe := by
  have same := effect.config_eq
  constructor
  · rw [same]
    exact safe.usable
  · rw [same]
    exact safe.payload
  · rw [effect.callback_eq]
    exact safe.returns
  · exact safe.inOrder.effect effect safe.returns

theorem found?_eq (small : tracker.config.payloadByteCount.toNat ≤ Overflow.maxPayloadBytes) (path : IntakePath)
    (report : AdvertisementReport) : tracker.found? path report = some (tracker.found path report) := by
  cases path with
  | iBeacon => exact IBeaconIntake.sighting?_eq _ report
  | overflowArea => exact OverflowIntake.sighting?_eq (Nat.le_trans small (by decide)) report

theorem act_send_snd (tracker : Tracker) (id : PumpId) (how : Waiting) (sighting : Sighting) :
    (tracker.act (.send id how sighting)).2 = (tracker.offer id how sighting).2 := by
  simp only [act]
  split <;> simp [*]

/-- Whatever is done, and whatever is reported, is done. -/
theorem IsSafe.attempt (safe : tracker.IsSafe) (deed : Deed) :
    ∃ next, tracker.attempt? deed = some next ∧ next.IsSafe := by
  cases deed with
  | act action =>
    have kept := safe.effect (tracker.effect_act action)
    cases action with
    | start =>
      cases starts : tracker.start with
      | ok => exact ⟨_, by simp only [attempt?, starts], kept⟩
      | error abort => exact absurd safe.usable (start_eq_error_iff.mp starts).2.1
    | _ => exact ⟨_, rfl, kept⟩
  | report id how report =>
    cases found : screen (tracker.found id.path report) with
    | none => exact ⟨tracker, by simp [attempt?, found?_eq safe.payload, found], safe⟩
    | some sighting =>
      have kept := safe.effect (tracker.effect_act (.send id how sighting))
      rw [act_send_snd] at kept
      exact ⟨_, by simp [attempt?, found?_eq safe.payload, found], kept⟩

theorem IsSafe.attemptAll (safe : tracker.IsSafe) (deeds : List Deed) :
    ∃ after, tracker.attemptAll? deeds = some after ∧ after.IsSafe := by
  induction deeds generalizing tracker with
  | nil => exact ⟨tracker, rfl, safe⟩
  | cons deed rest ih =>
    obtain ⟨next, done, kept⟩ := safe.attempt deed
    obtain ⟨after, others, still⟩ := ih kept
    exact ⟨after, by simp [attemptAll?, done, others], still⟩

end Tracker

namespace Session

variable {session : Session}

theorem toTracker_isOk {command : Except Abort (Response × List Polled × Session)}
    (given : ∃ outcome, command = .ok outcome) : ∃ outcome, session.toTracker command = .ok outcome := by
  rw [toTracker]
  split
  · exact given
  · exact ⟨_, rfl⟩

-- Of all commands only a start can abort.
theorem perform_isOk (usable : Channel.IsUsable session.tracker.config.channelCapacity.toNat) (command : Command) :
    ∃ outcome, session.perform command = .ok outcome := by
  cases command with
  | start =>
    apply toTracker_isOk
    cases starts : session.tracker.start with
    | ok => exact ⟨_, rfl⟩
    | error abort => exact absurd usable (Tracker.start_eq_error_iff.mp starts).2.1
  | shutdown | drop | config | nearby => exact toTracker_isOk ⟨_, rfl⟩
  | report | submit | dropIntakes =>
    simp only [perform]
    split <;> exact ⟨_, rfl⟩
  | seed => exact ⟨_, rfl⟩

theorem run_isOk (usable : Channel.IsUsable session.tracker.config.channelCapacity.toNat) (commands : List Command) :
    ∃ outcome, session.run commands = .ok outcome := by
  induction commands generalizing session with
  | nil => exact ⟨_, rfl⟩
  | cons command rest ih =>
    obtain ⟨⟨response, turns, middle⟩, performed⟩ := perform_isOk usable command
    have stepped : session.step command = .ok (response, turns ++ middle.settle.1, middle.settle.2) := by
      rw [step, performed]
      rfl
    have still : Channel.IsUsable middle.settle.2.tracker.config.channelCapacity.toNat := by
      apply (reaches_step stepped).invariant
        (P := fun tracker => Channel.IsUsable tracker.config.channelCapacity.toNat) _ usable
      intro _ _ _ _ _ effect kept
      rwa [effect.config_eq]
    obtain ⟨others, ran⟩ := ih still
    exact ⟨_, by simp only [run, stepped, ran, bind, Except.bind]; rfl⟩

end Session

namespace Tracker

variable {tracker : Tracker} {config : TrackerConfig} {callback : Option Callback}

/-- A configuration that passes its checks makes a tracker. The start of it aborts just when a channel of the given
capacity does; the checks do not ask for that. Once it has started, nothing aborts and no pump fails, whatever is
done to the tracker and whatever is reported to its intakes. -/
theorem valid_config_is_safe (valid : config.validate = .ok ())
    (returns : ∀ call, callback = some call → ∀ registry sighting, call registry sighting = .returns) :
    ∃ tracker, Tracker.create config callback = .ok tracker ∧
      (tracker.start = .error .capacityOutOfRange ↔ 2 ^ 61 - 1 < config.channelCapacity.toNat) ∧
      (config.channelCapacity.toNat ≤ 2 ^ 61 - 1 → ∃ started, tracker.start = .ok (.ok started) ∧
        (∀ deeds, ∃ after, started.attemptAll? deeds = some after ∧
          (∀ id lane, after.lane? id = some lane → lane.pump ≠ .failed) ∧
          ∀ path report, after.found? path report = some (after.found path report)) ∧
        ∀ clock commands, ∃ outcome, Session.run { tracker := started, clock := clock } commands = .ok outcome) := by
  obtain ⟨-, ⟨-, small⟩, positive⟩ := config.validate_eq_ok_iff.mp valid
  have created := create_of_valid valid callback
  refine ⟨_, created, ?_, ?_⟩
  · simp only [start_eq_error_iff, Channel.IsUsable, Channel.maxCapacity, isRunning, List.isEmpty_nil, Bool.not_true,
      true_and, and_true, positive, Nat.not_le]
  · intro fits
    have usable : Channel.IsUsable config.channelCapacity.toNat := ⟨positive, fits⟩
    have safe : IsSafe { config := config, registry := { expiration := config.expiration }, callback := callback } := by
      refine ⟨usable, small, returns, ?_⟩
      constructor <;> intro _ _ here <;> cases here
    obtain ⟨started, starts⟩ := start_of_not_isRunning rfl safe.usable
    have still := safe.effect (effect_of_start starts)
    refine ⟨started, starts, ?_, ?_⟩
    · intro deeds
      obtain ⟨after, done, kept⟩ := still.attemptAll deeds
      exact ⟨after, done, fun _ _ here => kept.inOrder.healthy here, found?_eq kept.payload⟩
    · intro clock commands
      exact Session.run_isOk still.usable commands

theorem valid_config_is_safe_default :
    let deeds : List Deed := [.report ⟨0, .overflowArea⟩ .suspended (.apple "" (-60) [0x01, 0x02]),
      .report ⟨0, .iBeacon⟩ .blocked (.apple "" (-60) [0x02, 0x15]), .act (.look ⟨0, .iBeacon⟩ .epoch), .act .start]
    TrackerConfig.validate {} = .ok () ∧
      ∃ tracker, Tracker.create {} (some fun _ _ => .returns) = .ok tracker ∧
        ∃ started, tracker.start = .ok (.ok started) ∧ (started.attemptAll? deeds).isSome = true := by
  intro deeds
  have valid : TrackerConfig.validate {} = .ok () := rfl
  have returns : ∀ call : Callback, some (fun _ _ => Reaction.returns) = some call →
      ∀ registry sighting, call registry sighting = .returns := by
    intro call same registry sighting
    cases same
    rfl
  obtain ⟨tracker, created, -, runs⟩ := valid_config_is_safe valid returns
  obtain ⟨started, starts, done, -⟩ := runs (by decide)
  obtain ⟨after, attempted, -⟩ := done deeds
  exact ⟨valid, tracker, created, started, starts, by rw [attempted]; rfl⟩

-- No channel holds 2 ^ 61 sightings, and the checks let such a capacity pass.
theorem valid_config_without_start : ∃ config : TrackerConfig, config.validate = .ok () ∧
    ∃ tracker, Tracker.create config none = .ok tracker ∧ tracker.start = .error .capacityOutOfRange :=
  ⟨{ channelCapacity := 2305843009213693952 }, rfl, _, rfl, rfl⟩

end Tracker

end BeaconWatch
