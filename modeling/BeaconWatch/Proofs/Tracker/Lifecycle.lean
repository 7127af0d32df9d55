import BeaconWatch.Proofs.Tracker.Paths
import BeaconWatch.Proofs.Tracker.Shutdowns

/-!
The calls of a tracker's owner. A tracker runs from a start that succeeds until a shutdown returns, a start
fails just while it runs, and every start makes paths that work, whatever happened to those before them.
-/

set_option autoImplicit false

namespace BeaconWatch.Tracker

variable {tracker next started : Tracker} {action : Action} {event? : Option Event} {id : PumpId} {lane left : Lane}
  {events : List Event} {actions : List Action}

theorem act_of_start (starts : tracker.start = .ok (.ok started)) : tracker.act .start = (none, started) := by
  simp only [act, starts]

theorem start_of_isRunning (running : tracker.isRunning = true) : tracker.start = .ok (.error .alreadyStarted) :=
  if_pos running

theorem Effect.not_returned (effect : Effect tracker action event? next) (unjoined : ∀ cause, action ≠ .join cause)
    (result : Except Error Unit) : event? ≠ some (.returned result) := by
  cases effect with
  | joined cause => exact absurd rfl (unjoined cause)
  | _ => simp

theorem isRunning_act (tracker : Tracker) (action : Action) :
    (tracker.act action).2.isRunning = true ↔
      (action = .start ∧ ∃ started, tracker.start = .ok (.ok started)) ∨
      (tracker.isRunning = true ∧ ∀ result, (tracker.act action).1 ≠ some (.returned result)) := by
  by_cases start : action = .start
  next =>
    subst start
    rcases tracker.start_cases with ⟨channel, starts, idle, -⟩ | ⟨error, refused⟩ | ⟨abort, aborted⟩
    · simp [act, starts, isRunning, addGeneration]
    · simp [act, refused]
    · simp [act, aborted]
  next =>
    by_cases join : ∃ cause, action = .join cause
    next =>
      obtain ⟨cause, rfl⟩ := join
      cases joined : tracker.join cause with
      | none => simp [act, joined]
      | some outcome =>
        obtain ⟨said, -, rfl⟩ := Option.map_eq_some_iff.mp joined
        simp [act, joined, isRunning]
    next =>
      have effect := tracker.effect_act action
      have unjoined := not_exists.mp join
      simp [isRunning, (effect.tasks_eq start unjoined).1, effect.not_returned unjoined, start]

/-- A start has succeeded, and no shutdown has returned since. -/
def StartedSince (tracker : Tracker) (actions : List Action) : Prop :=
  ∃ before rest started, actions = before ++ .start :: rest ∧ (tracker.run before).2.start = .ok (.ok started) ∧
    ∀ result, .returned result ∉ (started.run rest).1

theorem run_of_start {before rest : List Action} (starts : (tracker.run before).2.start = .ok (.ok started)) :
    (tracker.run (before ++ .start :: rest)).2 = (started.run rest).2 := by
  simp only [run_append, run_cons, act_of_start starts]

theorem startedSince_concat : StartedSince tracker (actions ++ [action]) ↔
    (action = .start ∧ ∃ started, (tracker.run actions).2.start = .ok (.ok started)) ∨
    (StartedSince tracker actions ∧ ∀ result, ((tracker.run actions).2.act action).1 ≠ some (.returned result)) := by
  constructor
  · intro since
    obtain ⟨before, rest, started, split, starts, unreturned⟩ := since
    -- The start is the last action itself, or the actions since then end in it.
    rcases List.eq_nil_or_concat rest with rfl | ⟨others, last, rfl⟩
    · obtain ⟨rfl, same⟩ := List.append_inj' split rfl
      exact .inl ⟨List.head_eq_of_cons_eq same, started, starts⟩
    · rw [List.concat_eq_append] at split unreturned
      rw [← List.cons_append, ← List.append_assoc] at split
      obtain ⟨rfl, same⟩ := List.append_inj' split rfl
      cases List.head_eq_of_cons_eq same
      simp only [run_append, run_cons, run_nil, List.append_nil, List.mem_append, Option.mem_toList, not_or] at unreturned
      rw [run_of_start starts]
      exact .inr ⟨⟨before, others, started, rfl, starts, fun result => (unreturned result).1⟩,
        fun result => (unreturned result).2⟩
  · intro parts
    rcases parts with ⟨rfl, started, starts⟩ | ⟨⟨before, rest, started, rfl, starts, unreturned⟩, silent⟩
    · exact ⟨actions, [], started, rfl, starts, by simp⟩
    · refine ⟨before, rest ++ [action], started, by simp, starts, ?_⟩
      intro result
      rw [run_of_start starts] at silent
      simp [run_append, unreturned result, silent result]

theorem isRunning_run_iff (idle : tracker.isRunning = false) (actions : List Action) :
    (tracker.run actions).2.isRunning = true ↔ StartedSince tracker actions := by
  induction actions using List.reverseRecOn with
  | nil => simp [StartedSince, idle]
  | append_singleton before last ih =>
    rw [startedSince_concat, run_append, run_cons, run_nil, isRunning_act, ih]

section

variable {meanwhile : List Action} {cause : String} (aside : ∀ action ∈ meanwhile, action.isOwners = false)

include aside

theorem shutdown_eq_some (inStep : tracker.InStep) (remembers : tracker.Remembers events) {result : Except Error Unit}
    (returns : tracker.shutdown meanwhile cause = some (result, next)) :
    next = { (tracker.cancel.run meanwhile).2 with tasks := [] } ∧
      ((result = .ok () ∧ ∀ id, tracker.current? = some id.generation →
          failedIn id (events ++ (tracker.cancel.run meanwhile).1) = false) ∨
        (result = .error (.intakeTaskFailed cause) ∧ ∃ id, tracker.current? = some id.generation ∧
          failedIn id (events ++ (tracker.cancel.run meanwhile).1) = true)) := by
  have cancels := inStep.effect .cancelled
  have remembered : tracker.cancel.Remembers events := by simpa using remembers.effect .cancelled
  have current : (tracker.cancel.run meanwhile).2.current? = tracker.current? := (tasks_run aside).2
  rw [← current]
  exact join_eq_some (cancels.run meanwhile) (remembered.run meanwhile) returns

theorem isSome_shutdown (inStep : tracker.InStep) (accounts : tracker.Accounts events)
    (enough : ∀ id, tracker.current? = some id.generation → tracker.HasEnded id ∨
      (tracker.waiting id).length + (accepted id (tracker.cancel.run meanwhile).1).length + 1 < looksOf id meanwhile) :
    (tracker.shutdown meanwhile cause).isSome = true := by
  rw [shutdown, join, Option.isSome_map]
  apply isSome_awaitTasks
  intro id member left there
  rw [(tasks_run aside).1] at member
  obtain ⟨lane, here⟩ := inStep.there member
  have cancels := inStep.effect .cancelled
  have called : tracker.cancel.Accounts events := by simpa using accounts.effect .cancelled
  have cancelled : tracker.cancel.isCancelled tracker.cancel.token = true := by simp [isCancelled, cancel]
  rcases enough id (inStep.tasks.mp member) with ended | looks
  · obtain ⟨same, found, gone, -⟩ := (ended.effect .cancelled).run meanwhile
    cases found.symm.trans there
    exact gone
  · exact ended_of_looks called cancels.old cancelled aside here looks there

end

/-- Whatever else happens: the tracker runs from a start that succeeds until a shutdown returns. A start is
refused, and changes nothing, just while it runs; otherwise it opens paths that work. A shutdown returns once its
pumps had their looks; it fails exactly if the callback failed in a pump of the generation at work, naming the cause
that it is told, and the tracker does not run any more. -/
theorem runs_from_start_to_shutdown {config : TrackerConfig} {callback : Option Callback}
    (created : Tracker.create config callback = .ok tracker)
    (usable : 1 ≤ config.channelCapacity.toNat ∧ config.channelCapacity.toNat ≤ 2 ^ 61 - 1) (actions : List Action) :
    let events := (tracker.run actions).1
    let after := (tracker.run actions).2
    (after.isRunning = true ↔ StartedSince tracker actions) ∧
      (after.isRunning = true → after.start = .ok (.error .alreadyStarted) ∧ after.act .start = (none, after)) ∧
      (after.isRunning = false → after.OpensPaths) ∧
      ∀ meanwhile cause, (∀ action ∈ meanwhile, action.isOwners = false) →
        let during := (after.cancel.run meanwhile).1
        (∀ result next, after.shutdown meanwhile cause = some (result, next) → next.isRunning = false ∧
          (result = .error (.intakeTaskFailed cause) ↔
            ∃ id, after.current? = some id.generation ∧ failedIn id (events ++ during) = true) ∧
          (result = .ok () ↔ ∀ id, after.current? = some id.generation → failedIn id (events ++ during) = false)) ∧
        ((∀ id, after.current? = some id.generation → after.HasEnded id ∨
            (after.waiting id).length + (accepted id during).length + 1 < looksOf id meanwhile) →
          (after.shutdown meanwhile cause).isSome = true) := by
  intro events after
  have inStep : after.InStep := (inStep_create created).run actions
  have remembers : after.Remembers events := by simpa using (remembers_create created).run actions
  have accounts : after.Accounts events := by simpa using (accounts_create created).run actions
  have idle : tracker.isRunning = false := by
    rw [create_eq_ok created]
    rfl
  have configured : after.config = config := (tracker.config_run actions).trans (by rw [create_eq_ok created])
  refine ⟨isRunning_run_iff idle actions, ?_, ?_, ?_⟩
  · intro running
    have refused := start_of_isRunning running
    exact ⟨refused, by simp only [act, refused]⟩
  · intro stopped
    exact inStep.opensPaths stopped (by rwa [configured])
  · intro meanwhile cause aside during
    refine ⟨?_, isSome_shutdown aside inStep accounts⟩
    intro result next returns
    obtain ⟨rfl, said⟩ := shutdown_eq_some aside inStep remembers returns
    refine ⟨rfl, ?_⟩
    rcases said with ⟨rfl, healthy⟩ | ⟨rfl, id, current, failed⟩
    · refine ⟨?_, fun _ => healthy, fun _ => rfl⟩
      simp only [reduceCtorEq, false_iff, not_exists, not_and, Bool.not_eq_true]
      exact healthy
    · refine ⟨⟨fun _ => ⟨id, current, failed⟩, fun _ => rfl⟩, ?_⟩
      simp only [reduceCtorEq, false_iff]
      intro healthy
      exact absurd (failed.symm.trans (healthy id current)) (by decide)

-- The callback fails on the overflow path; the shutdown reports it, and the path works again after a start.
theorem runs_from_start_to_shutdown_with_failure :
    let callback : Callback := fun _ sighting => if sighting.minor = 13 then .fails else .returns
    let broken : Sighting := ⟨2, 13, -59, -70, .overflowArea⟩
    let before : List Action := [.start, .send ⟨0, .overflowArea⟩ .suspended broken, .look ⟨0, .overflowArea⟩ .epoch]
    let meanwhile : List Action := [.look ⟨0, .iBeacon⟩ .epoch, .look ⟨0, .iBeacon⟩ .epoch]
    ∃ tracker, Tracker.create {} (some callback) = .ok tracker ∧
      (1 ≤ tracker.config.channelCapacity.toNat ∧ tracker.config.channelCapacity.toNat ≤ 2 ^ 61 - 1) ∧
      StartedSince tracker before ∧
      (∃ next, (tracker.run before).2.shutdown meanwhile Error.panicked = some (.error .intakeTaskFailed, next) ∧
        next.isRunning = false) ∧
      ∃ started, (tracker.run (before ++ .cancel :: meanwhile ++ [.join Error.panicked])).2.start = .ok (.ok started) ∧
        started.Works ⟨1, .overflowArea⟩ := by
  intro callback broken before meanwhile
  have first := runs_from_start_to_shutdown (rfl : Tracker.create {} (some callback) = .ok _) (by decide) before
  have second := runs_from_start_to_shutdown (rfl : Tracker.create {} (some callback) = .ok _) (by decide)
    (before ++ .cancel :: meanwhile ++ [.join Error.panicked])
  obtain ⟨started, starts, works⟩ := second.2.2.1 rfl
  refine ⟨_, rfl, by decide, first.1.mp rfl, ?_, started, starts, ?_⟩
  · have stopped := (first.2.2.2 meanwhile Error.panicked (by decide)).1 _ _ rfl
    exact ⟨_, rfl, stopped.1⟩
  · have calm : failedIn ⟨1, .overflowArea⟩ (started.run []).1 = false := rfl
    exact works .overflowArea [] (by simp) (by simp) calm

end BeaconWatch.Tracker
