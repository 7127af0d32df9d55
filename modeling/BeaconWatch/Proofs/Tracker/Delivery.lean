import BeaconWatch.Proofs.Tracker.Bookkeeping

/-!
What becomes of the sightings that a tracker accepts. Each pump records those of its path in the order in
which they were accepted, and the callback sees each of them once. A shutdown that returns leaves none behind
that was accepted before it, unless it is called between the two looks of a pump.
-/

set_option autoImplicit false

namespace BeaconWatch

/-- A pump that goes on, or ends well, has recorded what came before the channel was seen empty. -/
structure Lane.Settles (before recorded : List Sighting) (lane : Lane) : Prop where
  seen : lane.pump = .running → lane.sawEmpty = true → before <+: recorded
  ended : lane.pump = .stopped → before <+: recorded

namespace Lane

variable {callback : Option Callback} {asked later : Bool} {lane left : Lane}
  {accepted recorded before given taken : List Sighting}

/-- What was accepted before some moment is recorded by the time that the pump sees its channel empty. -/
theorem Settles.step (settles : lane.Settles before recorded) (accounts : lane.Accounts asked accepted recorded)
    (early : before <+: accepted) (step : lane.Step callback asked given taken left) :
    left.Settles before (recorded ++ taken) := by
  cases step with
  | same | sent | senderDropped =>
    rw [List.append_nil]
    exact ⟨settles.seen, settles.ended⟩
  | looked shows =>
    rw [List.append_nil]
    cases shows with
    | gone => exact settles
    | empty running _ none =>
      have all : accepted = recorded := by simpa [none] using accounts.waiting running
      rw [all] at early
      exact ⟨fun _ _ => early, fun _ => early⟩
    | unasked running =>
      constructor
      · intro _ saw
        cases saw
      · intro stopped
        exact absurd (running.symm.trans stopped) (by decide)
  | taken shows =>
    cases shows with
    | took running first =>
      constructor
      · intro _ saw
        exact absurd (first.symm.trans saw) (by decide)
      · intro stopped
        exact absurd (running.symm.trans stopped) (by decide)
  | failed => constructor <;> intro state <;> cases state
  | stopped shows =>
    rw [List.append_nil, shows.of_ended.2]
    refine ⟨by simp [finish], fun _ => ?_⟩
    cases shows with
    | asked running second => exact settles.seen running second
    | closed running _ none =>
      have all : accepted = recorded := by simpa [none] using accounts.waiting running
      rwa [all] at early

/-- The pump takes nothing any more: it has ended, or it looks at a cancellation that is there. -/
def IsLeaving (asked : Bool) (lane : Lane) : Prop :=
  asked = true ∧ (lane.pump = .running → lane.sawEmpty = true)

theorem IsLeaving.step (leaving : lane.IsLeaving asked) (step : lane.Step callback asked given taken left)
    (lasts : asked = true → later = true) : taken = [] ∧ left.IsLeaving later := by
  obtain ⟨asks, second⟩ := leaving
  refine ⟨?_, lasts asks, ?_⟩
  · cases step with
    | taken shows | failed shows =>
      cases shows with
      | took running first => exact absurd (first.symm.trans (second running)) (by decide)
    | _ => rfl
  · intro running
    have saw := second (step.was_running running)
    cases step with
    | same | sent | senderDropped => exact saw
    | looked shows =>
      cases shows with
      | gone ended => exact absurd running ended
      | empty => rfl
      | unasked _ _ calm => exact absurd (asks.symm.trans calm) (by decide)
    | taken shows | failed shows =>
      cases shows with
      | took _ first => exact absurd (first.symm.trans saw) (by decide)
    | stopped shows =>
      rw [shows.of_ended.2] at running
      cases running

end Lane

namespace Tracker

section

variable {tracker : Tracker} {events : List Event} {id : PumpId} {lane : Lane}

theorem Accounts.settles_run (accounts : tracker.Accounts events) {before : List Sighting}
    (early : before <+: accepted id events) (here : tracker.lane? id = some lane)
    (settles : lane.Settles before (recorded id events)) (actions : List Action) :
    ∃ left, (tracker.run actions).2.lane? id = some left ∧
      left.Settles before (recorded id (events ++ (tracker.run actions).1)) := by
  induction actions generalizing tracker events lane with
  | nil => exact ⟨lane, here, by simpa using settles⟩
  | cons action rest ih =>
    have effect := tracker.effect_act action
    obtain ⟨middle, there, step⟩ := effect.step_lane here
    have next := settles.step (accounts.lanes here) early step
    rw [run_cons, ← List.append_assoc]
    rw [← recorded_append] at next
    apply ih (accounts.effect effect) _ there next
    rw [accepted_append]
    exact early.trans (List.prefix_append ..)

theorem recorded_run_of_isLeaving (here : tracker.lane? id = some lane)
    (leaving : lane.IsLeaving (tracker.isAsked id)) (actions : List Action) :
    recorded id (tracker.run actions).1 = [] := by
  induction actions generalizing tracker lane with
  | nil => rfl
  | cons action rest ih =>
    have effect := tracker.effect_act action
    obtain ⟨left, there, step⟩ := effect.step_lane here
    obtain ⟨none, still⟩ := leaving.step step (effect.asked_lasts here)
    rw [run_cons, recorded_append, none, ih there still]
    rfl

theorem isBetweenLooks_iff (here : tracker.lane? id = some lane) :
    tracker.isBetweenLooks id = true ↔ lane.pump = .running ∧ lane.sawEmpty = true := by
  simp [isBetweenLooks, here]

theorem look_eq_took {now : Timestamp} {sighting : Sighting} {called : Option Reaction} {next : Tracker}
    (took : tracker.look id now = (.took sighting called, next)) :
    called = tracker.callback.map (fun call => call next.registry sighting) ∧
      next.registry = tracker.registry.recordAt sighting now := by
  cases here : tracker.lane? id with
  | none => simp [look_of_none here] at took
  | some lane =>
    rcases look_cases here now with ⟨_, -, looked⟩ | ⟨_, -, looked⟩ | ⟨_, _, -, looked⟩ <;> rw [looked] at took
    · cases took
    · cases took
    · cases took
      exact ⟨rfl, rfl⟩

section

variable {during : List Action}

-- The pump sees its channel empty once more, or has nothing to lose.
theorem accepted_prefix_of_join (accounts : tracker.Accounts events)
    (kept : accepted id events = recorded id events ++ tracker.waiting id)
    (calm : tracker.isBetweenLooks id = true → tracker.waiting id = [])
    (inOrder : (tracker.cancel.run during).2.InOrder) {cause : String} {result : Except Error Unit} {next : Tracker}
    (joined : (tracker.cancel.run during).2.join cause = some (result, next)) :
    accepted id events <+: recorded id (events ++ (tracker.cancel.run during).1) := by
  cases here : tracker.lane? id with
  | none => simp [accounts.absent here]
  | some lane =>
    have settles : lane.Settles (accepted id events) (recorded id events) := by
      constructor
      · intro running saw
        have empty := calm ((isBetweenLooks_iff here).mpr ⟨running, saw⟩)
        simp [kept, empty]
      · intro stopped
        have empty : tracker.waiting id = [] := by
          rw [waiting, here]
          exact ((accounts.lanes here).shut (by simp [stopped])).1
        simp [kept, empty]
    have called : tracker.cancel.Accounts events := by simpa using accounts.effect .cancelled
    obtain ⟨left, there, settled⟩ := called.settles_run (List.prefix_refl _) here settles during
    exact settled.ended (inOrder.stopped joined there)

-- The pump looks at the cancellation next, and its token is the one that is cancelled.
theorem recorded_of_isBetweenLooks (old : tracker.CancelsOld) (between : tracker.isBetweenLooks id = true) :
    recorded id (events ++ (tracker.cancel.run during).1) = recorded id events := by
  cases here : tracker.lane? id with
  | none => simp [isBetweenLooks, here] at between
  | some lane =>
    have same : tracker.cancel.lane? id = some lane := here
    have asked := isAsked_of_cancelled (old.effect .cancelled) (by simp [isCancelled, cancel]) same
    have saw : lane.sawEmpty = true := ((isBetweenLooks_iff here).mp between).2
    have leaving : lane.IsLeaving (tracker.cancel.isAsked id) := ⟨asked, fun _ => saw⟩
    rw [recorded_append, recorded_run_of_isLeaving same leaving, List.append_nil]

end

end

/-- However the sends, the looks of the pumps and the shutdowns alternate: each pump records a first part of
what its path accepted since the start, in that order, and until it is asked to stop the rest still waits. The
callback, if there is one, is called once for each recorded sighting, in the same order, and finds the record
stored. While nobody else writes to the registry, it changes by these records alone. A shutdown that returns without
an error leaves no sighting behind that was accepted before its call, unless it was called between the two looks
of the pump: then the pump records nothing more, and what waited for it is lost. -/
theorem sightings_kept {config : TrackerConfig} {callback : Option Callback} {tracker : Tracker}
    (created : Tracker.create config callback = .ok tracker)
    (returns : ∀ call, callback = some call → ∀ registry sighting, call registry sighting = .returns)
    (actions : List Action) :
    let events := (tracker.run actions).1
    let after := (tracker.run actions).2
    (∀ id, recorded id events <+: accepted id events) ∧
      (∀ id, after.isAsked id = false → accepted id events = recorded id events ++ after.waiting id) ∧
      shown events = (if callback.isSome then (receipts events).map Prod.fst else []) ∧
      (∀ id now sighting called next, after.look id now = (.took sighting called, next) →
        called = callback.map (fun call => call next.registry sighting) ∧
          next.registry.get? sighting.key = some (.ofSighting sighting now)) ∧
      (∀ more, (∀ operation, .use operation ∈ more → operation.written? = none) →
        (after.run more).2.registry = recordAll after.registry (receipts (after.run more).1)) ∧
      (∀ during cause next, (after.cancel.run during).2.join cause = some (.ok (), next) →
        ∀ id, after.isAsked id = false →
          let all := recorded id (events ++ (after.cancel.run during).1)
          (accepted id events <+: all ↔ (after.isBetweenLooks id = true → after.waiting id = [])) ∧
            (after.isBetweenLooks id = true → all = recorded id events)) := by
  intro events after
  have chosen : tracker.callback = callback := by rw [create_eq_ok created]
  have accounts : after.Accounts events := by simpa using (accounts_create created).run actions
  have healthy : tracker.InOrder := by
    rw [create_eq_ok created]
    constructor <;> intro _ _ here <;> cases here
  have calm : ∀ call, tracker.callback = some call → ∀ registry sighting, call registry sighting = .returns := by
    rwa [chosen]
  have kept (id : PumpId) (unasked : after.isAsked id = false) :
      accepted id events = recorded id events ++ after.waiting id :=
    accounts.eq_append_waiting (fun _ here => (healthy.run calm actions).healthy here) (fun _ _ _ => unasked)
  refine ⟨accounts.ordered, kept, ?_, ?_, fun more => after.registry_run, ?_⟩
  · rw [← chosen]
    exact tracker.shown_run actions
  · intro id now sighting called next took
    obtain ⟨once, stored⟩ := look_eq_took took
    rw [once, callback_run, chosen, stored]
    exact ⟨rfl, after.registry.get?_upsert_self (.ofSighting sighting now)⟩
  · intro during cause next joined id unasked all
    have old := ((inStep_create created).run actions).old
    have inOrder : (after.cancel.run during).2.InOrder := by
      have whole := healthy.run calm (actions ++ .cancel :: during)
      rwa [run_append] at whole
    have nothing (between : after.isBetweenLooks id = true) : all = recorded id events :=
      recorded_of_isBetweenLooks old between
    refine ⟨⟨?_, fun calm => accepted_prefix_of_join accounts (kept id unasked) calm inOrder joined⟩, nothing⟩
    intro whole between
    rw [nothing between, kept id unasked] at whole
    have length := whole.length_le
    rw [List.length_append] at length
    exact List.length_eq_zero_iff.mp (by omega)

-- Both paths accept sightings, the shutdown is called while two of them still wait, and one more comes in before
-- it returns.
theorem sightings_kept_through_shutdown :
    let first : Sighting := ⟨2, 7777, -59, -70, .iBeacon⟩
    let second : Sighting := ⟨3, 42, -61, -64, .iBeacon⟩
    let other : Sighting := ⟨2, 7777, -200, -40, .overflowArea⟩
    let before : List Action :=
      [.start, .send ⟨0, .iBeacon⟩ .suspended first, .send ⟨0, .overflowArea⟩ .blocked other,
        .look ⟨0, .iBeacon⟩ .epoch, .send ⟨0, .iBeacon⟩ .suspended second]
    let during : List Action :=
      [.look ⟨0, .overflowArea⟩ .epoch, .look ⟨0, .overflowArea⟩ .epoch, .look ⟨0, .overflowArea⟩ .epoch,
        .send ⟨0, .iBeacon⟩ .suspended first, .look ⟨0, .iBeacon⟩ .epoch, .look ⟨0, .iBeacon⟩ .epoch,
        .look ⟨0, .iBeacon⟩ .epoch, .look ⟨0, .iBeacon⟩ .epoch]
    ∃ tracker, Tracker.create {} (some fun _ _ => .returns) = .ok tracker ∧
      recorded ⟨0, .iBeacon⟩ (tracker.run before).1 = [first] ∧
      accepted ⟨0, .iBeacon⟩ (tracker.run before).1 = [first, second] ∧
      (∃ next, ((tracker.run before).2.cancel.run during).2.join Error.panicked = some (.ok (), next)) ∧
      [first, second] <+:
        recorded ⟨0, .iBeacon⟩ ((tracker.run before).1 ++ ((tracker.run before).2.cancel.run during).1) := by
  intro first second other before during
  refine ⟨_, rfl, rfl, rfl, ⟨_, rfl⟩, ?_⟩
  have kept := sightings_kept (rfl : Tracker.create {} (some fun _ _ => .returns) = .ok _)
    (by rintro _ ⟨⟩ _ _; rfl) before
  exact (kept.2.2.2.2.2 during Error.panicked _ rfl ⟨0, .iBeacon⟩ rfl).1.mpr (by decide)

-- A sighting is accepted, and the shutdown is called, after the pump has seen its channel empty and before it looks
-- at its cancellation.
theorem sighting_lost_between_looks :
    let sighting : Sighting := ⟨2, 7777, -59, -70, .iBeacon⟩
    let before : List Action := [.start, .look ⟨0, .iBeacon⟩ .epoch, .send ⟨0, .iBeacon⟩ .suspended sighting]
    let during : List Action :=
      [.look ⟨0, .iBeacon⟩ .epoch, .look ⟨0, .overflowArea⟩ .epoch, .look ⟨0, .overflowArea⟩ .epoch]
    ∃ tracker next, Tracker.create {} none = .ok tracker ∧
      accepted ⟨0, .iBeacon⟩ (tracker.run before).1 = [sighting] ∧
      ((tracker.run before).2.cancel.run during).2.join Error.panicked = some (.ok (), next) ∧
      ¬ [sighting] <+:
        recorded ⟨0, .iBeacon⟩ ((tracker.run before).1 ++ ((tracker.run before).2.cancel.run during).1) ∧
      next.registry.get? sighting.key = none :=
  ⟨_, _, rfl, rfl, rfl, by decide, rfl⟩

end Tracker

end BeaconWatch
