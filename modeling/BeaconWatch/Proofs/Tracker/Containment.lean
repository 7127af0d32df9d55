import BeaconWatch.Proofs.Tracker.Delivery
import BeaconWatch.Proofs.Tracker.Lifecycle

/-!
A callback that fails. It ends the pump that called it and closes that pump's path, after the sighting is
stored. The other path goes on as if the callback had returned, the next shutdown reports the failure, and a
start after it opens both paths again.
-/

set_option autoImplicit false

namespace BeaconWatch.Tracker

variable {tracker next started first second : Tracker} {action : Action} {event? : Option Event} {id : PumpId}
  {lane left : Lane} {events : List Event} {actions : List Action} {now : Timestamp} {sighting : Sighting}
  {cause : String}

theorem HasEnded.silent (ended : tracker.HasEnded id) (effect : Effect tracker action event? next) :
    about id event?.toList = [] := by
  obtain ⟨lane, here, gone, closed⟩ := ended
  by_cases mine : action.lane? = some id
  next =>
    cases effect with
    | sent _ _ found receiving =>
      cases mine
      cases here.symm.trans found
      exact absurd (receiving.symm.trans closed) (by decide)
    | took _ found shows =>
      cases mine
      cases here.symm.trans found
      exact absurd shows.of_took.1 gone
    | _ => rfl
  next => exact (effect.elsewhere here mine).2

theorem HasEnded.about_run (ended : tracker.HasEnded id) (actions : List Action) :
    about id (tracker.run actions).1 = [] := by
  induction actions generalizing tracker with
  | nil => rfl
  | cons action rest ih =>
    have effect := tracker.effect_act action
    simp only [run_cons, about_append, ended.silent effect, ih (ended.effect effect), List.append_nil]

theorem hasEnded_of_fails (fails : tracker.look id now = (.took sighting (some .fails), next)) : next.HasEnded id := by
  cases here : tracker.lane? id with
  | none => simp [look_of_none here] at fails
  | some lane =>
    rcases look_cases here now with ⟨left, -, looked⟩ | ⟨left, -, looked⟩ | ⟨first, left, -, looked⟩
    · simp [looked] at fails
    · simp [looked] at fails
    · obtain ⟨took, rfl⟩ := Prod.mk.inj (looked.symm.trans fails)
      obtain ⟨rfl, reacts⟩ := Polled.took.inj took
      refine ⟨_, lane?_taking here left first now, ?_, ?_⟩
      · simp [reacts, Lane.finish]
      · simp [reacts, Lane.finish, Channel.dropReceiver]

/-- Unless its pump failed or was asked to end, a path has recorded what it accepted, but for what still waits. -/
theorem accepted_eq_append_waiting (accounts : tracker.Accounts events) (remembers : tracker.Remembers events)
    (calm : failedIn id events = false) (unasked : tracker.HasEnded id → tracker.isAsked id = false) :
    accepted id events = recorded id events ++ tracker.waiting id := by
  apply accounts.eq_append_waiting
  · intro lane here failed
    have fails := (remembers id).mpr ⟨lane, here, failed⟩
    exact absurd (fails.symm.trans calm) (by decide)
  · intro lane here gone
    exact unasked ⟨lane, here, gone, ((accounts.lanes here).shut gone).2⟩

-- What waits, waits for a pump that runs.
theorem poll_of_waiting {rest : List Sighting} (accounts : tracker.Accounts events)
    (stays : tracker.isAsked id = true → tracker.isBetweenLooks id = false)
    (waits : tracker.waiting id = sighting :: rest) (now : Timestamp) :
    (tracker.poll id now).1 = .took sighting (tracker.reaction sighting now) ∧
      (tracker.poll id now).2.registry = tracker.registry.recordAt sighting now := by
  cases here : tracker.lane? id with
  | none => simp [waiting, here] at waits
  | some lane =>
    rw [waiting_eq here] at waits
    have running : lane.pump = .running := by
      by_contra ended
      exact absurd (waits.symm.trans ((accounts.lanes here).shut ended).1) (by simp)
    have first (asked : tracker.isAsked id = true) : lane.sawEmpty = false := by
      simpa [isBetweenLooks, here, running] using stays asked
    rw [poll_of_queue here running waits first]
    exact ⟨rfl, rfl⟩

theorem Effect.current?_eq {generation : Nat} (effect : Effect tracker action event? next)
    (current : tracker.current? = some generation) (unreturned : ∀ result, event? ≠ some (.returned result)) :
    next.current? = some generation := by
  cases effect with
  | started idle => simp [current?, idle] at current
  | joined => exact absurd rfl (unreturned _)
  | nothing | cancelled | used => exact current
  | sent | looked | ended | intakeDropped => simpa [current?, isRunning] using current
  | took => simpa [current?, isRunning, taking] using current

theorem current?_run {generation : Nat} (current : tracker.current? = some generation)
    (unreturned : ∀ result, .returned result ∉ (tracker.run actions).1) :
    (tracker.run actions).2.current? = some generation := by
  induction actions generalizing tracker with
  | nil => exact current
  | cons action rest ih =>
    simp only [run_cons, List.mem_append, Option.mem_toList, not_or] at unreturned
    have still := (tracker.effect_act action).current?_eq current fun result => (unreturned result).1
    exact ih still fun result => (unreturned result).2

/-- Two trackers that cannot be told apart from one of their paths. -/
structure AgreeOn (id : PumpId) (first second : Tracker) : Prop where
  lane : ∃ lane, first.lane? id = some lane ∧ second.lane? id = some lane
  asked : first.isAsked id = second.isAsked id
  old : first.CancelsOld ∧ second.CancelsOld
  callback : first.callback = second.callback

theorem reaction_of_calm (calm : tracker.reaction sighting now ≠ some .fails) :
    tracker.reaction sighting now = tracker.callback.map fun _ => .returns := by
  rw [reaction] at calm ⊢
  cases chosen : tracker.callback with
  | none => rfl
  | some call =>
    cases reacts : call (tracker.registry.recordAt sighting now) sighting with
    | returns => simp [reacts]
    | fails => simp [chosen, reacts] at calm

-- What a look leaves, and what it tells, depend on the lane that it finds, and on the callback where it fails.
theorem act_look (here : tracker.lane? id = some lane) (now : Timestamp)
    (calm : failedIn id (tracker.act (.look id now)).1.toList = false) :
    (tracker.act (.look id now)).1 = (match (lane.look (tracker.isAsked id)).1 with
        | .took sighting => some (.recorded id sighting now (tracker.callback.map fun _ => .returns))
        | .idle | .ended => none) ∧
      (tracker.act (.look id now)).2.lane? id = some (lane.look (tracker.isAsked id)).2 := by
  have same := look_eq here now
  generalize lane.look (tracker.isAsked id) = shown at same ⊢
  rcases shown with ⟨_ | sighting | _, left⟩
  · simp [act, same, lane?_setLane_self here]
  · have unfailed : tracker.reaction sighting now ≠ some .fails := by
      simpa [act, same, failedIn, Event.isFailureOf] using calm
    have there := lane?_taking here left sighting now
    rw [if_neg unfailed] at there
    simp only [act, same, there, reaction_of_calm unfailed, and_self]
  · simp [act, same, lane?_setLane_self here]

/-- Whatever is done, two trackers go on to agree on a path as long as its callback does not fail in either. -/
theorem AgreeOn.act (agree : AgreeOn id first second) (action : Action)
    (calm : failedIn id (first.act action).1.toList = false) (healthy : failedIn id (second.act action).1.toList = false) :
    about id (first.act action).1.toList = about id (second.act action).1.toList ∧
      AgreeOn id (first.act action).2 (second.act action).2 := by
  obtain ⟨lane, here, there⟩ := agree.lane
  have effect := first.effect_act action
  have other := second.effect_act action
  have asked : (first.act action).2.isAsked id = (second.act action).2.isAsked id := by
    by_cases cancel : action = .cancel
    next =>
      -- The present tokens of the two may differ, but every older one is cancelled already.
      subst cancel
      have old := agree.old.1.effect .cancelled
      have older := agree.old.2.effect .cancelled
      exact (isAsked_of_cancelled old (by simp [isCancelled, cancel]) here).trans
        (isAsked_of_cancelled older (by simp [isCancelled, cancel]) there).symm
    next => rw [effect.isAsked_eq cancel here, other.isAsked_eq cancel there, agree.asked]
  have told : about id (first.act action).1.toList = about id (second.act action).1.toList ∧
      ∃ left, (first.act action).2.lane? id = some left ∧ (second.act action).2.lane? id = some left := by
    by_cases mine : action.lane? = some id
    next =>
      cases action with
      | start | cancel | join | use => cases mine
      | send _ how sighting =>
        cases mine
        obtain ⟨said, leaves⟩ := act_send here how sighting
        obtain ⟨answered, left⟩ := act_send there how sighting
        exact ⟨by rw [said, answered], _, leaves, left⟩
      | look _ now =>
        cases mine
        obtain ⟨said, leaves⟩ := act_look here now calm
        obtain ⟨answered, left⟩ := act_look there now healthy
        rw [← agree.asked, ← agree.callback] at answered
        rw [← agree.asked] at left
        exact ⟨by rw [said, answered], _, leaves, left⟩
      | dropIntake =>
        cases mine
        simp only [Tracker.act, here, there]
        exact ⟨trivial, _, lane?_setLane_self here _, lane?_setLane_self there _⟩
    next =>
      obtain ⟨still, silent⟩ := effect.elsewhere here mine
      obtain ⟨same, quiet⟩ := other.elsewhere there mine
      exact ⟨silent.trans quiet.symm, lane, still, same⟩
  have called := effect.callback_eq.trans (agree.callback.trans other.callback_eq.symm)
  exact ⟨told.1, told.2, asked, ⟨agree.old.1.effect effect, agree.old.2.effect other⟩, called⟩

theorem AgreeOn.run (agree : AgreeOn id first second) (calm : failedIn id (first.run actions).1 = false)
    (healthy : failedIn id (second.run actions).1 = false) :
    about id (first.run actions).1 = about id (second.run actions).1 ∧
      AgreeOn id (first.run actions).2 (second.run actions).2 := by
  induction actions generalizing first second with
  | nil => exact ⟨rfl, agree⟩
  | cons action rest ih =>
    simp only [run_cons, failedIn_append, Bool.or_eq_false_iff] at calm healthy
    obtain ⟨told, still⟩ := agree.act action calm.1 healthy.1
    obtain ⟨later, agrees⟩ := ih still calm.2 healthy.2
    exact ⟨by simp only [run_cons, about_append, told, later], agrees⟩

theorem act_look_snd (tracker : Tracker) (id : PumpId) (now : Timestamp) :
    (tracker.act (.look id now)).2 = (tracker.look id now).2 := by
  simp only [act]
  split <;> simp [*]

-- The other path does not see whether the callback failed.
theorem agreeOn_spared {other : PumpId} (old : tracker.CancelsOld) (here : tracker.lane? other = some lane)
    (different : other ≠ id) : AgreeOn other (tracker.look id now).2 (tracker.spared id now) := by
  let returning : Tracker := { tracker with callback := tracker.callback.map fun _ _ _ => .returns }
  have first := old.effect (tracker.effect_act (.look id now))
  have same : returning.CancelsOld := old
  have second := same.effect (returning.effect_act (.look id now))
  rw [act_look_snd] at first second
  have still : (returning.look id now).2.lane? other = returning.lane? other := lane?_look_of_ne different now
  have asked : (returning.look id now).2.isAsked other = returning.isAsked other := isAsked_look id now
  constructor
  · exact ⟨lane, (lane?_look_of_ne different now).trans here, still.trans here⟩
  · exact (isAsked_look id now).trans asked.symm
  · exact ⟨first, second⟩
  · have effect := tracker.effect_act (.look id now)
    rw [act_look_snd] at effect
    exact effect.callback_eq

theorem run_of_shutdown {meanwhile : List Action} {result : Except Error Unit}
    (returns : tracker.shutdown meanwhile cause = some (result, next)) :
    (tracker.run (.cancel :: meanwhile ++ [.join cause])).2 = next := by
  rw [shutdown] at returns
  simp [run_append, act, returns]

/-- Once its generation is given up, a tracker can start again, whatever else goes on. -/
theorem opensPaths_run (inStep : tracker.InStep) (here : tracker.lane? id = some lane) (idle : tracker.isRunning = false)
    (aside : ∀ action ∈ actions, action.isOwners = false) : (tracker.run actions).2.OpensPaths := by
  apply (inStep.run actions).opensPaths
  · rw [isRunning, (tasks_run aside).1]
    exact idle
  · rw [config_run]
    exact inStep.usable here

-- The shutdown of a generation with a failed pump says so, and the tracker can start again after it.
theorem shutdown_of_failed {meanwhile : List Action} {result : Except Error Unit} (inStep : tracker.InStep)
    (remembers : tracker.Remembers events) (ended : tracker.HasEnded id)
    (current : tracker.current? = some id.generation) (failed : failedIn id events = true)
    (aside : ∀ action ∈ meanwhile, action.isOwners = false)
    (returns : tracker.shutdown meanwhile cause = some (result, next)) :
    result = .error (.intakeTaskFailed cause) ∧ next.isRunning = false ∧
      ∀ others, (∀ action ∈ others, action.isOwners = false) → (next.run others).2.OpensPaths := by
  have later := inStep.run (.cancel :: meanwhile ++ [.join cause])
  obtain ⟨lane, here, -⟩ := ended.run (.cancel :: meanwhile ++ [.join cause])
  rw [run_of_shutdown returns] at later here
  obtain ⟨rfl, said⟩ := shutdown_eq_some aside inStep remembers returns
  rcases said with ⟨-, healthy⟩ | ⟨error, -⟩
  · have calm := healthy id current
    simp [failed] at calm
  · exact ⟨error, rfl, fun _ others => opensPaths_run later here rfl others⟩

theorem lane_of_took {other : PumpId} {called : Option Reaction} (took : tracker.look id now = (.took sighting called, next))
    (same : other.generation = id.generation) : ∃ lane, tracker.lane? other = some lane := by
  cases here : tracker.lane? id with
  | none => simp [look_of_none here] at took
  | some lane =>
    obtain ⟨generation, found, -⟩ := lane?_eq_some_iff.mp here
    exact ⟨_, lane?_eq_some_iff.mpr ⟨generation, by rw [same, found], rfl⟩⟩

/-- While its callback does not fail, the other path does what it would have done had this one's returned. -/
theorem run_spared {failed : Tracker} {other : PumpId} (old : tracker.CancelsOld)
    (fails : tracker.look id now = (.took sighting (some .fails), failed)) (different : other ≠ id)
    (same : other.generation = id.generation) (calm : failedIn other (failed.run actions).1 = false)
    (healthy : failedIn other ((tracker.spared id now).run actions).1 = false) :
    about other (failed.run actions).1 = about other ((tracker.spared id now).run actions).1 ∧
      (failed.run actions).2.lane? other = ((tracker.spared id now).run actions).2.lane? other := by
  obtain ⟨lane, there⟩ := lane_of_took fails same
  have agree : AgreeOn other (tracker.look id now).2 (tracker.spared id now) := agreeOn_spared old there different
  rw [fails] at agree
  obtain ⟨told, left⟩ := agree.run calm healthy
  obtain ⟨lane, here, there⟩ := left.lane
  exact ⟨told, here.trans there.symm⟩

section

variable {config : TrackerConfig} {call : Callback} (created : Tracker.create config (some call) = .ok tracker)

include created

/-- The callback fails in a pump, at any moment of a run. The sighting is stored before that. The path of the
pump takes nothing any more. As long as its own callback does not fail, the other path does what it would have done
had this one's returned: it records what it accepts, until it is asked to stop. The next shutdown of this generation
reports the failure, and whenever the tracker is started after that, both of its paths work. -/
theorem failure_contained {failed : Tracker}
    (fails : (tracker.run actions).2.look id now = (.took sighting (some .fails), failed)) :
    let before := (tracker.run actions).1 ++ [.recorded id sighting now (some .fails)]
    failed.registry.get? sighting.key = some (.ofSighting sighting now) ∧
      (∀ more how another, about id (failed.run more).1 = [] ∧
        (failed.run more).2.offer id how another = (.closed, (failed.run more).2)) ∧
      (∀ other more, other ≠ id → other.generation = id.generation →
        let events := before ++ (failed.run more).1
        let after := (failed.run more).2
        failedIn other events = false →
          ((after.HasEnded other → after.isAsked other = false) →
            accepted other events = recorded other events ++ after.waiting other) ∧
          (∀ later first rest, (after.isAsked other = true → after.isBetweenLooks other = false) →
            after.waiting other = first :: rest →
            let registry := after.registry.recordAt first later
            (after.poll other later).1 = .took first (some (call registry first)) ∧
              (after.poll other later).2.registry = registry) ∧
          let spared := ((tracker.run actions).2.spared id now).run more
          (failedIn other spared.1 = false →
            about other (failed.run more).1 = about other spared.1 ∧ after.lane? other = spared.2.lane? other)) ∧
      ((tracker.run actions).2.current? = some id.generation →
        ∀ more, (∀ result, .returned result ∉ (failed.run more).1) →
          ∀ meanwhile cause, (∀ action ∈ meanwhile, action.isOwners = false) →
            let after := (failed.run more).2
            let during := (after.cancel.run meanwhile).1
            (∀ result next, after.shutdown meanwhile cause = some (result, next) →
              result = .error (.intakeTaskFailed cause) ∧ next.isRunning = false ∧
                ∀ aside, (∀ action ∈ aside, action.isOwners = false) → (next.run aside).2.OpensPaths) ∧
            ((∀ other, other ≠ id → other.generation = id.generation → after.HasEnded other ∨
                (after.waiting other).length + (accepted other during).length + 1 < looksOf other meanwhile) →
              (after.shutdown meanwhile cause).isSome = true)) := by
  intro before
  have look : (tracker.run actions).2.act (.look id now) = (some (.recorded id sighting now (some .fails)), failed) := by
    simp only [act, fails]
  have effect := (tracker.run actions).2.effect_act (.look id now)
  rw [look] at effect
  have inStep : failed.InStep := ((inStep_create created).run actions).effect effect
  have remembers : failed.Remembers before := by
    have all := ((remembers_create created).run actions).effect effect
    simpa using all
  have accounts : failed.Accounts before := by
    have all := ((accounts_create created).run actions).effect effect
    simpa using all
  have ended := hasEnded_of_fails fails
  have known : failedIn id before = true := by simp [before, failedIn, Event.isFailureOf]
  have chosen : (tracker.run actions).2.callback = some call := by
    rw [callback_run, create_eq_ok created]
  refine ⟨?_, ?_, ?_, ?_⟩
  · rw [(look_eq_took fails).2]
    exact Registry.get?_upsert_self _ (.ofSighting sighting now)
  · intro more how another
    exact ⟨ended.about_run more, (ended.run more).offer how another⟩
  · intro other more different same events after calm
    refine ⟨accepted_eq_append_waiting (accounts.run more) (remembers.run more) calm, ?_, ?_⟩
    · intro later first rest stays waits
      have took := poll_of_waiting (accounts.run more) stays waits later
      rw [reaction, callback_run, effect.callback_eq, chosen] at took
      exact took
    · intro spared healthy
      simp only [events, failedIn_append, Bool.or_eq_false_iff] at calm
      exact run_spared ((inStep_create created).run actions).old fails different same calm.2 healthy
  · intro current more unreturned meanwhile cause aside after during
    have settled : after.InStep := inStep.run more
    have gone : after.HasEnded id := ended.run more
    have present : after.current? = some id.generation := current?_run (effect.current?_eq current (by simp)) unreturned
    constructor
    · intro result next returns
      exact shutdown_of_failed settled (remembers.run more) gone present (by simp [known]) aside returns
    · intro enough
      apply isSome_shutdown aside settled (accounts.run more)
      intro other latest
      by_cases same : other = id
      next =>
        rw [same]
        exact .inl gone
      next => exact enough other same (Option.some.inj (latest.symm.trans present))

end

-- The callback fails on the overflow path while a sighting waits on the other one.
theorem failure_contained_on_overflow :
    let callback : Callback := fun _ sighting => if sighting.minor = 13 then .fails else .returns
    let broken : Sighting := ⟨2, 13, -59, -70, .overflowArea⟩
    let waits : Sighting := ⟨3, 42, -61, -64, .iBeacon⟩
    let actions : List Action :=
      [.start, .send ⟨0, .overflowArea⟩ .suspended broken, .send ⟨0, .iBeacon⟩ .suspended waits]
    let meanwhile : List Action := [.look ⟨0, .iBeacon⟩ .epoch, .look ⟨0, .iBeacon⟩ .epoch, .look ⟨0, .iBeacon⟩ .epoch]
    ∃ tracker failed, Tracker.create {} (some callback) = .ok tracker ∧
      (tracker.run actions).2.look ⟨0, .overflowArea⟩ .epoch = (.took broken (some .fails), failed) ∧
      failed.registry.get? broken.key = some (.ofSighting broken .epoch) ∧
      failed.offer ⟨0, .overflowArea⟩ .blocked broken = (.closed, failed) ∧
      (failed.poll ⟨0, .iBeacon⟩ .epoch).1 = .took waits (some .returns) ∧
      ∃ next, failed.shutdown meanwhile Error.panicked = some (.error .intakeTaskFailed, next) ∧
        ∃ started, next.start = .ok (.ok started) ∧ started.Works ⟨1, .overflowArea⟩ := by
  intro callback broken waits actions meanwhile
  have contained := failure_contained (rfl : Tracker.create {} (some callback) = .ok _)
    (rfl : (Tracker.run _ actions).2.look ⟨0, .overflowArea⟩ .epoch = (.took broken (some .fails), _))
  obtain ⟨stored, closed, goesOn, reported⟩ := contained
  refine ⟨_, _, rfl, rfl, stored, (closed [] .blocked broken).2, ?_, _, rfl, ?_⟩
  · exact ((goesOn ⟨0, .iBeacon⟩ [] (by decide) rfl rfl).2.1 .epoch waits [] (by decide) rfl).1
  · have again := ((reported rfl [] (by simp) meanwhile Error.panicked (by decide)).1 _ _ rfl).2.2 [] (by simp)
    obtain ⟨started, starts, works⟩ := again
    have calm : failedIn ⟨1, .overflowArea⟩ (started.run []).1 = false := rfl
    exact ⟨started, starts, works .overflowArea [] (by simp) (by simp) calm⟩

end BeaconWatch.Tracker
