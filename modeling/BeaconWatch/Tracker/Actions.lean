import BeaconWatch.Registry.Calls
import BeaconWatch.Tracker.Basic

/-!
Runs of a tracker whose owner, producers and pumps act side by side, next to other users of its registry.
Each action is one step. A pump takes its looks one by one, with anything between its look at an empty
channel and its look at the cancellation; between a look that takes a sighting and the return of the
callback nothing else happens. A shutdown is two steps, its call and its return, with anything between
them.
-/

set_option autoImplicit false

namespace BeaconWatch.Tracker

/-- A shutdown that is called cancels, as the drop of a tracker does; one that returns has joined, and was told
the cause of a task that failed. -/
inductive Action
  | start
  | send (id : PumpId) (how : Waiting) (sighting : Sighting)
  | look (id : PumpId) (now : Timestamp)
  | cancel
  | join (cause : String)
  | dropIntake (id : PumpId)
  | use (operation : Registry.Operation)
  deriving DecidableEq

inductive Event
  | accepted (id : PumpId) (sighting : Sighting)
  | recorded (id : PumpId) (sighting : Sighting) (now : Timestamp) (reaction : Option Reaction)
  | returned (result : Except Error Unit)

def act (tracker : Tracker) : Action → Option Event × Tracker
  | .start =>
      match tracker.start with
      | .ok (.ok started) => (none, started)
      | .ok (.error _) | .error _ => (none, tracker)
  | .send id how sighting =>
      match tracker.offer id how sighting with
      | (.sent, after) => (some (.accepted id sighting), after)
      | (.waits _, after) | (.closed, after) => (none, after)
  | .look id now =>
      match tracker.look id now with
      | (.took sighting reaction, after) => (some (.recorded id sighting now reaction), after)
      | (.idle, after) | (.ended, after) => (none, after)
  | .cancel => (none, tracker.cancel)
  | .join cause =>
      match tracker.join cause with
      | some (result, after) => (some (.returned result), after)
      | none => (none, tracker)
  | .dropIntake id =>
      match tracker.lane? id with
      | none => (none, tracker)
      | some lane => (none, tracker.setLane id { lane with channel := lane.channel.dropSender })
  | .use operation => (none, { tracker with registry := tracker.registry.after operation })

def run (tracker : Tracker) : List Action → List Event × Tracker
  | [] => ([], tracker)
  | action :: rest =>
      let (event?, tracker) := tracker.act action
      let (events, tracker) := tracker.run rest
      (event?.toList ++ events, tracker)

/-- The sightings that one path of one generation accepted, and those that its pump recorded, in their order. -/
def accepted (id : PumpId) (events : List Event) : List Sighting :=
  events.filterMap fun
    | .accepted other sighting => if other = id then some sighting else none
    | .recorded _ _ _ _ | .returned _ => none

def recorded (id : PumpId) (events : List Event) : List Sighting :=
  events.filterMap fun
    | .recorded other sighting _ _ => if other = id then some sighting else none
    | .accepted _ _ | .returned _ => none

/-- What the pumps recorded together, and when. -/
def receipts (events : List Event) : List (Sighting × Timestamp) :=
  events.filterMap fun
    | .recorded _ sighting now _ => some (sighting, now)
    | .accepted _ _ | .returned _ => none

-- The sightings that the callback was called with.
def shown (events : List Event) : List Sighting :=
  events.filterMap fun
    | .recorded _ sighting _ (some _) => some sighting
    | .recorded _ _ _ none | .accepted _ _ | .returned _ => none

@[simp] theorem run_nil (tracker : Tracker) : tracker.run [] = ([], tracker) := rfl

@[simp] theorem run_cons (tracker : Tracker) (action : Action) (rest : List Action) :
    tracker.run (action :: rest) =
      ((tracker.act action).1.toList ++ ((tracker.act action).2.run rest).1,
        ((tracker.act action).2.run rest).2) := rfl

theorem run_append (tracker : Tracker) (first second : List Action) :
    tracker.run (first ++ second) =
      ((tracker.run first).1 ++ ((tracker.run first).2.run second).1,
        ((tracker.run first).2.run second).2) := by
  induction first generalizing tracker with
  | nil => rfl
  | cons action rest ih => simp [ih]

end BeaconWatch.Tracker
