import BeaconWatch.Tracker.Actions

/-!
A tracker as its owner sees it. The owner calls start and shutdown one after another; while a shutdown
waits for the pumps, everybody else goes on.
-/

set_option autoImplicit false

namespace BeaconWatch.Tracker

/-- What only the owner of the tracker does. -/
def Action.isOwners : Action → Bool
  | .start | .cancel | .join _ => true
  | .send _ _ _ | .look _ _ | .dropIntake _ | .use _ => false

-- The path that an action is about.
def Action.lane? : Action → Option PumpId
  | .send id _ _ | .look id _ | .dropIntake id => some id
  | .start | .cancel | .join _ | .use _ => none

def Action.isLookOf (id : PumpId) : Action → Bool
  | .look other _ => other = id
  | .start | .send _ _ _ | .cancel | .join _ | .dropIntake _ | .use _ => false

def looksOf (id : PumpId) (actions : List Action) : Nat :=
  actions.countP (Action.isLookOf id)

def Event.isAbout (id : PumpId) : Event → Bool
  | .accepted other _ | .recorded other _ _ _ => other = id
  | .returned _ => false

def about (id : PumpId) (events : List Event) : List Event :=
  events.filter (Event.isAbout id)

def Event.isFailureOf (id : PumpId) : Event → Bool
  | .recorded other _ _ reaction => other = id ∧ reaction = some .fails
  | .accepted _ _ | .returned _ => false

/-- Whether the callback failed in the pump. -/
def failedIn (id : PumpId) (events : List Event) : Bool :=
  events.any (Event.isFailureOf id)

/-- The generation at work: the latest one, from its start until a shutdown returns. -/
def current? (tracker : Tracker) : Option Nat :=
  if tracker.isRunning then some (tracker.generations.length - 1) else none

/-- A shutdown that returns after the given actions, told the cause of a task that failed; nothing as long as
it still waits. -/
def shutdown (tracker : Tracker) (meanwhile : List Action) (cause : String) :
    Option (Except Error Unit × Tracker) :=
  (tracker.cancel.run meanwhile).2.join cause

def waiting (tracker : Tracker) (id : PumpId) : List Sighting :=
  (tracker.lane? id).elim [] fun lane => lane.channel.queue

/-- The pump has seen its channel empty, and looks at its cancellation next. -/
def isBetweenLooks (tracker : Tracker) (id : PumpId) : Bool :=
  (tracker.lane? id).any fun lane => lane.pump = .running ∧ lane.sawEmpty

-- What a look leaves whose callback returns, whatever the tracker's own callback does there.
def spared (tracker : Tracker) (id : PumpId) (now : Timestamp) : Tracker :=
  let after := ({ tracker with callback := tracker.callback.map fun _ _ _ => .returns }.look id now).2
  { after with callback := tracker.callback }

end BeaconWatch.Tracker
