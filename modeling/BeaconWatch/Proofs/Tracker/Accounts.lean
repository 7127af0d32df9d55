import BeaconWatch.Proofs.Registry.History
import BeaconWatch.Proofs.Tracker.Effects
import BeaconWatch.Tracker.Lifecycle

/-!
The accounts of a tracker: what each path accepted, what its pump recorded, and what still waits. The callback
sees what is recorded, and the registry changes by it.
-/

set_option autoImplicit false

namespace BeaconWatch

/-- A lane whose pump has ended has lost what waited there, and takes nothing any more. -/
def Lane.IsShut (lane : Lane) : Prop :=
  lane.channel.queue = [] ∧ lane.channel.hasReceiver = false

/-- What a lane accepted, what its pump recorded, and what still waits. Only a pump that is asked to stop can
leave something behind. -/
structure Lane.Accounts (asked : Bool) (accepted recorded : List Sighting) (lane : Lane) : Prop where
  ordered : recorded <+: accepted
  waiting : lane.pump = .running → accepted = recorded ++ lane.channel.queue
  emptied : lane.pump = .stopped → asked = false → accepted = recorded
  shut : lane.pump ≠ .running → lane.IsShut

namespace Lane

variable {callback : Option Callback} {asked later : Bool} {lane left : Lane}
  {accepted recorded given taken : List Sighting}

theorem Step.was_running (step : lane.Step callback asked given taken left) (running : left.pump = .running) :
    lane.pump = .running := by
  cases step with
  | same | sent | senderDropped => exact running
  | looked shows => exact shows.of_idle.2.symm.trans running
  | taken shows | failed shows => exact shows.of_took.1
  | stopped shows => exact shows.of_ended.1

theorem Step.healthy (step : lane.Step callback asked given taken left)
    (returns : ∀ call, callback = some call → ∀ registry sighting, call registry sighting = .returns)
    (healthy : lane.pump ≠ .failed) : left.pump ≠ .failed := by
  cases step with
  | same | sent | senderDropped => exact healthy
  | looked shows =>
    rw [shows.of_idle.2]
    exact healthy
  | taken shows =>
    obtain ⟨-, rest, -, rfl⟩ := shows.of_took
    exact healthy
  | failed _ chosen fails => simp [returns _ chosen] at fails
  | stopped shows =>
    rw [shows.of_ended.2]
    simp [finish]

theorem Step.isShut (step : lane.Step callback asked given taken left) (shut : lane.pump ≠ .running → lane.IsShut) :
    left.pump ≠ .running → left.IsShut := by
  intro gone
  cases step with
  | same | senderDropped => exact shut gone
  | sent _ receiving => exact absurd (receiving.symm.trans (shut gone).2) (by decide)
  | looked shows =>
    obtain ⟨channel, pump⟩ := shows.of_idle
    rw [IsShut, channel]
    exact shut (pump ▸ gone)
  | taken shows =>
    obtain ⟨running, rest, -, rfl⟩ := shows.of_took
    exact absurd running gone
  | failed => exact ⟨rfl, rfl⟩
  | stopped shows =>
    rw [shows.of_ended.2]
    exact ⟨rfl, rfl⟩

/-- Unless its pump failed or left something behind, a lane has recorded what it accepted, but for what waits. -/
theorem Accounts.eq_append_queue (accounts : lane.Accounts asked accepted recorded) (healthy : lane.pump ≠ .failed)
    (calm : lane.pump ≠ .running → asked = false) : accepted = recorded ++ lane.channel.queue := by
  cases state : lane.pump with
  | running => exact accounts.waiting state
  | stopped =>
    have gone : lane.pump ≠ .running := by simp [state]
    rw [accounts.emptied state (calm gone), (accounts.shut gone).1, List.append_nil]
  | failed => exact absurd state healthy

theorem Accounts.step (accounts : lane.Accounts asked accepted recorded)
    (step : lane.Step callback asked given taken left) (still : later = false → asked = false) :
    left.Accounts later (accepted ++ given) (recorded ++ taken) := by
  have shut := step.isShut accounts.shut
  cases step with
  | same | senderDropped =>
    rw [List.append_nil, List.append_nil]
    exact ⟨accounts.ordered, accounts.waiting, fun stopped calm => accounts.emptied stopped (still calm), shut⟩
  | sent sighting receiving =>
    have running : lane.pump = .running := by
      by_contra ended
      exact absurd (receiving.symm.trans (accounts.shut ended).2) (by decide)
    refine ⟨?_, ?_, ?_, shut⟩
    · rw [List.append_nil]
      exact accounts.ordered.trans (List.prefix_append ..)
    · intro _
      simp [withQueue, accounts.waiting running]
    · intro stopped
      exact absurd (running.symm.trans stopped) (by decide)
  | looked shows =>
    obtain ⟨channel, pump⟩ := shows.of_idle
    rw [List.append_nil, List.append_nil]
    refine ⟨accounts.ordered, ?_, ?_, shut⟩
    · rw [channel, pump]
      exact accounts.waiting
    · rw [pump]
      exact fun stopped calm => accounts.emptied stopped (still calm)
  | @taken sighting left shows =>
    obtain ⟨running, rest, next, rfl⟩ := shows.of_took
    have all : accepted = recorded ++ [sighting] ++ rest := by simpa [next] using accounts.waiting running
    rw [List.append_nil, all]
    refine ⟨List.prefix_append .., fun _ => rfl, ?_, shut⟩
    intro stopped
    exact absurd (running.symm.trans stopped) (by decide)
  | @failed sighting left _ _ shows =>
    obtain ⟨running, rest, next, rfl⟩ := shows.of_took
    have all : accepted = recorded ++ [sighting] ++ rest := by simpa [next] using accounts.waiting running
    rw [List.append_nil, all]
    exact ⟨List.prefix_append .., by simp [finish], by simp [finish], shut⟩
  | stopped shows =>
    rw [List.append_nil, List.append_nil]
    refine ⟨accounts.ordered, ?_, ?_, shut⟩
    · simp [shows.of_ended.2, finish]
    · intro _ calm
      cases shows with
      | asked _ _ asks => exact absurd (asks.symm.trans (still calm)) (by decide)
      | closed running _ none => simpa [none] using accounts.waiting running

end Lane

namespace Tracker

/-- The accounts of all lanes. Nothing was accepted where no lane is. -/
structure Accounts (events : List Event) (tracker : Tracker) : Prop where
  lanes : ∀ {id : PumpId} {lane : Lane}, tracker.lane? id = some lane →
    lane.Accounts (tracker.isAsked id) (accepted id events) (recorded id events)
  absent : ∀ {id : PumpId}, tracker.lane? id = none → accepted id events = [] ∧ recorded id events = []

theorem Accounts.effect {events : List Event} {tracker next : Tracker} {action : Action} {event? : Option Event}
    (accounts : tracker.Accounts events) (effect : Effect tracker action event? next) :
    next.Accounts (events ++ event?.toList) := by
  constructor
  · intro id left there
    rw [accepted_append, recorded_append]
    cases here : tracker.lane? id with
    | some lane =>
      obtain ⟨after, same, step⟩ := effect.step_lane here
      cases same.symm.trans there
      apply (accounts.lanes here).step step
      intro calm
      rw [← Bool.not_eq_true]
      exact fun asked => absurd (calm.symm.trans (effect.asked_lasts here asked)) (by decide)
    | none =>
      obtain ⟨none, nothing, fresh⟩ := effect.new_lane here
      obtain ⟨-, running, empty, -⟩ := fresh left there
      rw [none, nothing, (accounts.absent here).1, (accounts.absent here).2]
      exact ⟨List.prefix_refl _, by simp [empty], fun _ _ => rfl, fun ended => absurd running ended⟩
  · intro id gone
    rw [accepted_append, recorded_append]
    cases here : tracker.lane? id with
    | some lane =>
      obtain ⟨after, same, -⟩ := effect.step_lane here
      rw [same] at gone
      cases gone
    | none =>
      obtain ⟨none, nothing, -⟩ := effect.new_lane here
      rw [none, nothing, (accounts.absent here).1, (accounts.absent here).2]
      exact ⟨rfl, rfl⟩

theorem Accounts.run {events : List Event} {tracker : Tracker} (accounts : tracker.Accounts events)
    (actions : List Action) : (tracker.run actions).2.Accounts (events ++ (tracker.run actions).1) := by
  induction actions generalizing tracker events with
  | nil => simpa using accounts
  | cons action rest ih =>
    rw [run_cons, ← List.append_assoc]
    exact ih (accounts.effect (tracker.effect_act action))

theorem Accounts.ordered {events : List Event} {tracker : Tracker} (accounts : tracker.Accounts events)
    (id : PumpId) : recorded id events <+: accepted id events := by
  cases here : tracker.lane? id with
  | some lane => exact (accounts.lanes here).ordered
  | none =>
    obtain ⟨none, nothing⟩ := accounts.absent here
    simp [none, nothing]

section

variable {config : TrackerConfig} {callback : Option Callback} {tracker : Tracker}
  (created : Tracker.create config callback = .ok tracker)

include created

theorem create_eq_ok : tracker =
    { config := config, registry := { expiration := config.expiration }, callback := callback } := by
  rw [create] at created
  cases valid : config.validate with
  | error => simp [valid, Except.map] at created
  | ok => simpa [valid, Except.map, eq_comm] using created

theorem accounts_create : tracker.Accounts [] := by
  rw [create_eq_ok created]
  refine ⟨?_, fun _ => ⟨rfl, rfl⟩⟩
  intro id lane here
  cases here

end

theorem callback_run (tracker : Tracker) (actions : List Action) :
    (tracker.run actions).2.callback = tracker.callback :=
  run_invariant (P := fun after => after.callback = tracker.callback)
    (fun _ effect same => effect.callback_eq.trans same) rfl

theorem Effect.shown_eq {tracker next : Tracker} {action : Action} {event? : Option Event}
    (effect : Effect tracker action event? next) :
    shown event?.toList =
      if tracker.callback.isSome then (receipts event?.toList).map Prod.fst else [] := by
  cases effect with
  | took => cases chosen : tracker.callback <;> simp [shown, receipts, reaction, chosen]
  | _ => simp [shown, receipts]

theorem shown_run (tracker : Tracker) (actions : List Action) :
    shown (tracker.run actions).1 =
      if tracker.callback.isSome then (receipts (tracker.run actions).1).map Prod.fst else [] := by
  induction actions generalizing tracker with
  | nil => simp [shown, receipts]
  | cons action rest ih =>
    have effect := tracker.effect_act action
    rw [run_cons, shown_append, receipts_append, ih, effect.shown_eq, effect.callback_eq]
    split <;> simp

/-- Records a list of sightings, one after another. -/
def recordAll (registry : Registry) (receipts : List (Sighting × Timestamp)) : Registry :=
  receipts.foldl (fun registry receipt => registry.recordAt receipt.1 receipt.2) registry

theorem Effect.registry_eq {tracker next : Tracker} {action : Action} {event? : Option Event}
    (effect : Effect tracker action event? next)
    (reads : ∀ operation, action = .use operation → operation.written? = none) :
    next.registry = recordAll tracker.registry (receipts event?.toList) := by
  cases effect with
  | used operation => exact Registry.after_of_read (reads operation rfl) _
  | _ => rfl

theorem registry_run (tracker : Tracker) {actions : List Action}
    (reads : ∀ operation, .use operation ∈ actions → operation.written? = none) :
    (tracker.run actions).2.registry = recordAll tracker.registry (receipts (tracker.run actions).1) := by
  induction actions generalizing tracker with
  | nil => rfl
  | cons action rest ih =>
    have first := (tracker.effect_act action).registry_eq (fun operation same => reads operation (by simp [same]))
    have others := ih (tracker.act action).2 (fun operation member => reads operation (List.mem_cons_of_mem _ member))
    rw [run_cons, others, first, receipts_append, recordAll, recordAll, recordAll, List.foldl_append]

/-- While no callback fails, the tasks that the tracker holds are those of its running pumps. -/
structure InOrder (tracker : Tracker) : Prop where
  healthy : ∀ {id : PumpId} {lane : Lane}, tracker.lane? id = some lane → lane.pump ≠ .failed
  held : ∀ {id : PumpId} {lane : Lane}, tracker.lane? id = some lane → lane.pump = .running → id ∈ tracker.tasks

theorem not_running_of_awaited {tracker : Tracker} (healthy : ∀ {id : PumpId} {lane : Lane},
    tracker.lane? id = some lane → lane.pump ≠ .failed) {tasks : List PumpId} {result : Except Error Unit}
    {cause : String} (awaited : tracker.awaitTasks cause tasks = some result) {id : PumpId} {lane : Lane}
    (member : id ∈ tasks) (here : tracker.lane? id = some lane) : lane.pump ≠ .running := by
  induction tasks with
  | nil => cases member
  | cons first rest ih =>
    rw [awaitTasks] at awaited
    rcases List.mem_cons.mp member with rfl | later
    · intro running
      simp [here, running] at awaited
    · split at awaited
      case h_1 => cases awaited
      case h_2 failed =>
        obtain ⟨broken, there, failed⟩ := Option.map_eq_some_iff.mp failed
        exact absurd failed (healthy there)
      case h_3 => exact ih awaited later
      case h_4 => exact ih awaited later

theorem InOrder.effect {tracker next : Tracker} {action : Action} {event? : Option Event}
    (inOrder : tracker.InOrder) (effect : Effect tracker action event? next)
    (returns : ∀ call, tracker.callback = some call → ∀ registry sighting, call registry sighting = .returns) :
    next.InOrder := by
  constructor
  · intro id left there
    cases here : tracker.lane? id with
    | none =>
      obtain ⟨-, running, -⟩ := (effect.new_lane here).2.2 left there
      simp [running]
    | some lane =>
      obtain ⟨after, same, step⟩ := effect.step_lane here
      cases same.symm.trans there
      exact step.healthy returns (inOrder.healthy here)
  · intro id left there running
    cases here : tracker.lane? id with
    | none => exact ((effect.new_lane here).2.2 left there).1
    | some lane =>
      obtain ⟨after, same, step⟩ := effect.step_lane here
      cases same.symm.trans there
      have before := step.was_running running
      have task := inOrder.held here before
      cases effect with
      | started idle =>
        rw [isRunning, Bool.not_eq_false', List.isEmpty_iff] at idle
        simp [idle] at task
      | joined _ awaited => exact absurd before (not_running_of_awaited inOrder.healthy awaited task here)
      | _ => exact task

theorem InOrder.run {tracker : Tracker} (inOrder : tracker.InOrder)
    (returns : ∀ call, tracker.callback = some call → ∀ registry sighting, call registry sighting = .returns)
    (actions : List Action) : (tracker.run actions).2.InOrder := by
  induction actions generalizing tracker with
  | nil => exact inOrder
  | cons action rest ih =>
    have effect := tracker.effect_act action
    apply ih (inOrder.effect effect returns)
    rwa [effect.callback_eq]

section

variable {tracker : Tracker} {events : List Event} {id : PumpId} {lane : Lane}

-- A join that answers finds no pump running.
theorem InOrder.stopped (inOrder : tracker.InOrder) {cause : String} {result : Except Error Unit} {next : Tracker}
    (joined : tracker.join cause = some (result, next)) (here : tracker.lane? id = some lane) :
    lane.pump = .stopped := by
  obtain ⟨_, awaited, -⟩ := Option.map_eq_some_iff.mp joined
  cases state : lane.pump with
  | running =>
    exact absurd state (not_running_of_awaited inOrder.healthy awaited (inOrder.held here state) here)
  | failed => exact absurd state (inOrder.healthy here)
  | stopped => rfl

theorem Accounts.eq_append_waiting (accounts : tracker.Accounts events)
    (healthy : ∀ lane, tracker.lane? id = some lane → lane.pump ≠ .failed)
    (calm : ∀ lane, tracker.lane? id = some lane → lane.pump ≠ .running → tracker.isAsked id = false) :
    accepted id events = recorded id events ++ tracker.waiting id := by
  cases here : tracker.lane? id with
  | none => simp [accounts.absent here, waiting, here]
  | some lane =>
    have kept := (accounts.lanes here).eq_append_queue (healthy lane here) (calm lane here)
    simpa [waiting, here] using kept

end

end Tracker

end BeaconWatch
