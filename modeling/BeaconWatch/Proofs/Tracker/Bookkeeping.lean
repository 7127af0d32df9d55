import BeaconWatch.Proofs.Tracker.Endings
import BeaconWatch.Tracker.Lifecycle

/-!
What a tracker keeps in step over a run: its tasks with the generation at work, its tokens, the capacity of its
channels, and the pumps that failed with the failures of the callback.
-/

set_option autoImplicit false

namespace BeaconWatch

namespace Lane

variable {callback : Option Callback} {asked : Bool} {lane left : Lane} {given taken : List Sighting}

theorem Step.capacity_eq (step : lane.Step callback asked given taken left) :
    left.channel.capacity = lane.channel.capacity := by
  cases step with
  | same | sent | senderDropped => rfl
  | looked shows | taken shows | failed shows | stopped shows => exact shows.capacity_eq

end Lane

namespace Tracker

variable {tracker next : Tracker} {action : Action} {event? : Option Event} {id : PumpId} {lane left : Lane}

section

variable (first second : List Event) (id : PumpId)

@[simp] theorem about_append : about id (first ++ second) = about id first ++ about id second :=
  List.filter_append ..

@[simp] theorem failedIn_append : failedIn id (first ++ second) = (failedIn id first || failedIn id second) :=
  List.any_append

end

-- The views of one path look at nothing but what is about it.
theorem recorded_about (id : PumpId) (events : List Event) : recorded id (about id events) = recorded id events := by
  simp only [recorded, about, List.filterMap_filter]
  congr 1
  funext event
  cases event with
  | recorded other => by_cases same : other = id <;> simp [Event.isAbout, same]
  | accepted | returned => simp

theorem failedIn_about (id : PumpId) (events : List Event) : failedIn id (about id events) = failedIn id events := by
  simp only [failedIn, about, List.any_filter]
  congr 1
  funext event
  cases event with
  | recorded other => by_cases same : other = id <;> simp [Event.isAbout, Event.isFailureOf, same]
  | accepted | returned => simp [Event.isFailureOf]

theorem failedIn_of_recorded {events : List Event} (none : recorded id events = []) : failedIn id events = false := by
  apply List.any_eq_false.mpr
  intro event member
  have unrecorded := List.filterMap_eq_nil_iff.mp none event member
  cases event with
  | accepted | returned => simp [Event.isFailureOf]
  | recorded other =>
    by_cases same : other = id
    next => simp [same] at unrecorded
    next => simp [Event.isFailureOf, same]

@[simp] theorem tasks_setLane : (tracker.setLane id lane).tasks = tracker.tasks := rfl

@[simp] theorem length_generations_setLane :
    (tracker.setLane id lane).generations.length = tracker.generations.length :=
  List.length_modify ..

theorem Effect.config_eq (effect : Effect tracker action event? next) : next.config = tracker.config := by
  cases effect <;> rfl

theorem config_run (tracker : Tracker) (actions : List Action) : (tracker.run actions).2.config = tracker.config :=
  run_invariant (P := fun after => after.config = tracker.config)
    (fun _ effect same => effect.config_eq.trans same) rfl

/-- An action does nothing to a lane that it is not about. -/
theorem Effect.elsewhere (effect : Effect tracker action event? next) (here : tracker.lane? id = some lane)
    (other : action.lane? ≠ some id) : next.lane? id = some lane ∧ about id event?.toList = [] := by
  cases effect with
  | nothing | cancelled | joined | used => exact ⟨here, rfl⟩
  | started => exact ⟨by rw [lane?_addGeneration, if_neg (ne_length_of_lane? here), here], rfl⟩
  | @sent place | @looked place | @took place | @ended place | @intakeDropped place =>
    have different : id ≠ place := by
      intro same
      exact other (by rw [same]; rfl)
    refine ⟨(lane?_setLane_of_ne different _).trans here, ?_⟩
    simp [about, Event.isAbout, Ne.symm different]

/-- A pump fails with the callback that it calls, and at no other time. -/
theorem Effect.failed_iff (effect : Effect tracker action event? next) (here : tracker.lane? id = some lane)
    (there : next.lane? id = some left) :
    left.pump = .failed ↔ lane.pump = .failed ∨ failedIn id event?.toList = true := by
  by_cases mine : action.lane? = some id
  next =>
    cases effect with
    | nothing =>
      cases here.symm.trans there
      simp [failedIn]
    | cancelled | joined | used | started => cases mine
    | sent how sighting found =>
      cases mine
      cases here.symm.trans found
      cases (lane?_setLane_self here _).symm.trans there
      simp [failedIn, Event.isFailureOf, Lane.withQueue]
    | looked now found shows =>
      cases mine
      cases here.symm.trans found
      cases (lane?_setLane_self here _).symm.trans there
      simp [failedIn, shows.of_idle.2]
    | @took _ _ next sighting now found shows =>
      cases mine
      cases here.symm.trans found
      cases (lane?_taking here next sighting now).symm.trans there
      obtain ⟨running, rest, -, rfl⟩ := shows.of_took
      by_cases fails : tracker.reaction sighting now = some .fails
      next => simp [fails, failedIn, Event.isFailureOf, Lane.finish]
      next => simp [fails, failedIn, Event.isFailureOf, Lane.withQueue]
    | ended now found shows =>
      cases mine
      cases here.symm.trans found
      cases (lane?_setLane_self here _).symm.trans there
      obtain ⟨running, rfl⟩ := shows.of_ended
      simp [failedIn, Lane.finish, running]
    | intakeDropped found =>
      cases mine
      cases here.symm.trans found
      cases (lane?_setLane_self here _).symm.trans there
      simp [failedIn, Lane.dropSender]
  next =>
    obtain ⟨still, silent⟩ := effect.elsewhere here mine
    cases still.symm.trans there
    have calm : failedIn id event?.toList = false := by rw [← failedIn_about, silent]; rfl
    simp [calm]

/-- The failed pumps of a tracker are those in which the callback failed. -/
def Remembers (events : List Event) (tracker : Tracker) : Prop :=
  ∀ id, failedIn id events = true ↔ ∃ lane, tracker.lane? id = some lane ∧ lane.pump = .failed

theorem Remembers.effect {events : List Event} (remembers : tracker.Remembers events)
    (effect : Effect tracker action event? next) : next.Remembers (events ++ event?.toList) := by
  intro id
  rw [failedIn_append, Bool.or_eq_true, remembers id]
  cases here : tracker.lane? id with
  | some lane =>
    obtain ⟨left, there, -⟩ := effect.step_lane here
    have failed := effect.failed_iff here there
    simp [there, failed]
  | none =>
    obtain ⟨-, unrecorded, fresh⟩ := effect.new_lane here
    simp only [failedIn_of_recorded unrecorded, reduceCtorEq, false_and, exists_false, or_self, false_iff,
      not_exists, not_and]
    intro left there
    simp [(fresh left there).2.1]

theorem Remembers.run {events : List Event} (remembers : tracker.Remembers events) (actions : List Action) :
    (tracker.run actions).2.Remembers (events ++ (tracker.run actions).1) := by
  induction actions generalizing tracker events with
  | nil => simpa using remembers
  | cons action rest ih =>
    rw [run_cons, ← List.append_assoc]
    exact ih (remembers.effect (tracker.effect_act action))

/-- Tasks, tokens and channels of a tracker agree. -/
structure InStep (tracker : Tracker) : Prop where
  old : tracker.CancelsOld
  reached : ∀ token ∈ tracker.cancelled, token ≤ tracker.token
  tasks : ∀ {id : PumpId}, id ∈ tracker.tasks ↔ tracker.current? = some id.generation
  there : ∀ {id : PumpId}, id ∈ tracker.tasks → ∃ lane, tracker.lane? id = some lane
  usable : ∀ {id : PumpId} {lane : Lane}, tracker.lane? id = some lane →
    Channel.IsUsable tracker.config.channelCapacity.toNat
  capacity : ∀ {id : PumpId} {lane : Lane}, tracker.lane? id = some lane →
    lane.channel.capacity = tracker.config.channelCapacity.toNat

theorem mem_tasks_addGeneration {channel : Channel Sighting} :
    id ∈ (tracker.addGeneration channel).tasks ↔ id.generation = tracker.generations.length := by
  obtain ⟨generation, path⟩ := id
  cases path <;> simp [addGeneration]

@[simp] theorem current?_addGeneration {channel : Channel Sighting} :
    (tracker.addGeneration channel).current? = some tracker.generations.length := by
  simp [current?, isRunning, addGeneration]

theorem token_le_nextToken (tracker : Tracker) : tracker.token ≤ tracker.nextToken := by
  rw [nextToken]
  split <;> omega

/-- Only a start and the return of a shutdown change the tasks. -/
theorem Effect.tasks_eq (effect : Effect tracker action event? next) (unstarted : action ≠ .start)
    (unjoined : ∀ cause, action ≠ .join cause) : next.tasks = tracker.tasks ∧ next.current? = tracker.current? := by
  cases effect with
  | nothing | cancelled | used => exact ⟨rfl, rfl⟩
  | started => exact absurd rfl unstarted
  | joined cause => exact absurd rfl (unjoined cause)
  | sent | looked | ended | intakeDropped => exact ⟨rfl, by simp [current?, isRunning]⟩
  | took => exact ⟨rfl, by simp [current?, isRunning, taking]⟩

theorem InStep.effect (inStep : tracker.InStep) (effect : Effect tracker action event? next) : next.InStep := by
  constructor
  · exact inStep.old.effect effect
  · intro token member
    cases effect with
    | started => exact Nat.le_trans (inStep.reached token member) tracker.token_le_nextToken
    | cancelled =>
      rcases List.mem_cons.mp member with rfl | earlier
      · exact Nat.le_refl _
      · exact inStep.reached token earlier
    | _ => exact inStep.reached token member
  · intro id
    by_cases plain : action ≠ .start ∧ ∀ cause, action ≠ .join cause
    next =>
      obtain ⟨tasks, current⟩ := effect.tasks_eq plain.1 plain.2
      rw [tasks, current, inStep.tasks]
    next =>
      cases effect with
      | started => rw [mem_tasks_addGeneration, current?_addGeneration, Option.some.injEq, eq_comm]
      | joined => simp [current?, isRunning]
      | nothing => exact inStep.tasks
      | _ => simp at plain
  · intro id member
    cases here : tracker.lane? id with
    | some lane =>
      obtain ⟨left, there, -⟩ := effect.step_lane here
      exact ⟨left, there⟩
    | none =>
      have unknown : id ∉ tracker.tasks := by
        intro member
        obtain ⟨lane, found⟩ := inStep.there member
        exact absurd (here.symm.trans found) (by simp)
      cases effect with
      | started =>
        rw [mem_tasks_addGeneration] at member
        exact ⟨_, by rw [lane?_addGeneration, if_pos member]⟩
      | joined => cases member
      | _ => exact absurd member unknown
  · intro id left there
    rw [effect.config_eq]
    cases here : tracker.lane? id with
    | some lane => exact inStep.usable here
    | none =>
      obtain ⟨-, -, -, -, made⟩ := (effect.new_lane here).2.2 left there
      exact (Channel.create_eq_ok_iff.mp made).1
  · intro id left there
    rw [effect.config_eq]
    cases here : tracker.lane? id with
    | some lane =>
      obtain ⟨after, same, step⟩ := effect.step_lane here
      cases same.symm.trans there
      exact step.capacity_eq.trans (inStep.capacity here)
    | none =>
      obtain ⟨-, -, -, -, made⟩ := (effect.new_lane here).2.2 left there
      rw [(Channel.create_eq_ok_iff.mp made).2]

theorem InStep.run (inStep : tracker.InStep) (actions : List Action) : (tracker.run actions).2.InStep :=
  run_invariant (fun _ effect kept => kept.effect effect) inStep

section

variable {config : TrackerConfig} {callback : Option Callback} (created : Tracker.create config callback = .ok tracker)

include created

theorem inStep_create : tracker.InStep := by
  rw [create_eq_ok created]
  constructor
  · intro token member
    cases member
  · intro token member
    cases member
  · simp [current?, isRunning]
  · intro id member
    cases member
  all_goals
    intro id lane here
    cases here

theorem remembers_create : tracker.Remembers [] := by
  rw [create_eq_ok created]
  intro id
  simp [failedIn, lane?]

end

end Tracker

end BeaconWatch
