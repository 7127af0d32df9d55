import BeaconWatch.Intake
import BeaconWatch.Tracker.Pump
import BeaconWatch.TrackerConfig

/-!
The tracker. Each successful start makes a generation of two lanes that share a cancellation token;
their pumps record into one registry. The tracker holds the tasks of the current generation until a
shutdown has awaited them.
-/

set_option autoImplicit false

namespace BeaconWatch

structure Generation where
  token : Nat
  iBeacon : Lane
  overflow : Lane
  deriving DecidableEq

namespace Generation

def lane (generation : Generation) : IntakePath → Lane
  | .iBeacon => generation.iBeacon
  | .overflowArea => generation.overflow

def setLane (generation : Generation) (path : IntakePath) (lane : Lane) : Generation :=
  match path with
  | .iBeacon => { generation with iBeacon := lane }
  | .overflowArea => { generation with overflow := lane }

@[simp] theorem lane_setLane_self (generation : Generation) (path : IntakePath) (lane : Lane) :
    (generation.setLane path lane).lane path = lane := by
  cases path <;> rfl

def hasIntakes (generation : Generation) : Bool :=
  generation.iBeacon.channel.senders != 0

def dropIntakes (generation : Generation) : Generation :=
  { generation with
    iBeacon := { generation.iBeacon with channel := generation.iBeacon.channel.dropSender }
    overflow := { generation.overflow with channel := generation.overflow.channel.dropSender } }

end Generation

structure PumpId where
  generation : Nat
  path : IntakePath
  deriving DecidableEq

-- What a pump did: nothing, store a sighting and show it to the callback if there is one, or end.
inductive Polled
  | idle
  | took (sighting : Sighting) (reaction : Option Reaction)
  | ended
  deriving DecidableEq

/-- Generations stand oldest first. A token is cancelled for good; a start after that takes the next
one. -/
structure Tracker where
  config : TrackerConfig
  registry : Registry
  callback : Option Callback
  generations : List Generation := []
  token : Nat := 0
  cancelled : List Nat := []
  tasks : List PumpId := []

namespace Tracker

def create (config : TrackerConfig) (callback : Option Callback) : Except Error Tracker :=
  config.validate.map fun _ =>
    { config := config, registry := { expiration := config.expiration }, callback := callback }

def isRunning (tracker : Tracker) : Bool :=
  !tracker.tasks.isEmpty

def isCancelled (tracker : Tracker) (token : Nat) : Bool :=
  tracker.cancelled.contains token

def lane? (tracker : Tracker) (id : PumpId) : Option Lane :=
  tracker.generations[id.generation]?.map fun generation => generation.lane id.path

def modifyGeneration (tracker : Tracker) (index : Nat) (change : Generation → Generation) :
    Tracker :=
  { tracker with generations := tracker.generations.modify index change }

def setLane (tracker : Tracker) (id : PumpId) (lane : Lane) : Tracker :=
  tracker.modifyGeneration id.generation fun generation => generation.setLane id.path lane

def nextToken (tracker : Tracker) : Nat :=
  if tracker.isCancelled tracker.token then tracker.token + 1 else tracker.token

def addGeneration (tracker : Tracker) (channel : Channel Sighting) : Tracker :=
  let index := tracker.generations.length
  { tracker with
    generations := tracker.generations ++ [⟨tracker.nextToken, { channel := channel },
      { channel := channel }⟩]
    token := tracker.nextToken
    tasks := [⟨index, .iBeacon⟩, ⟨index, .overflowArea⟩] }

-- Starts two pumps. A running tracker refuses; a capacity that no channel can have aborts.
def start (tracker : Tracker) : Except Abort (Except Error Tracker) :=
  if tracker.isRunning then
    .ok (.error .alreadyStarted)
  else
    (Channel.create Sighting tracker.config.channelCapacity.toNat 1).map fun channel =>
      .ok (tracker.addGeneration channel)

/-- The next look of a pump. A sighting that it takes is in the registry before the callback sees it,
and a callback that fails ends the pump that called it. -/
def look (tracker : Tracker) (id : PumpId) (now : Timestamp) : Polled × Tracker :=
  match tracker.generations[id.generation]? with
  | none => (.idle, tracker)
  | some generation =>
      match (generation.lane id.path).look (tracker.isCancelled generation.token) with
      | (.idle, lane) => (.idle, tracker.setLane id lane)
      | (.ended, lane) => (.ended, tracker.setLane id lane)
      | (.took sighting, lane) =>
          let registry := tracker.registry.recordAt sighting now
          let reaction : Option Reaction :=
            tracker.callback.map fun call => call registry sighting
          let lane := if reaction = some .fails then lane.finish .failed else lane
          (.took sighting reaction, { tracker.setLane id lane with registry := registry })

/-- A turn of a pump that nobody interrupts: one look and, if that showed nothing, the other one. -/
def poll (tracker : Tracker) (id : PumpId) (now : Timestamp) : Polled × Tracker :=
  match tracker.look id now with
  | (.idle, tracker) => tracker.look id now
  | (.took sighting reaction, tracker) => (.took sighting reaction, tracker)
  | (.ended, tracker) => (.ended, tracker)

def offer (tracker : Tracker) (id : PumpId) (how : Waiting) (sighting : Sighting) :
    SendResult × Tracker :=
  match tracker.lane? id with
  | none => (.closed, tracker)
  | some lane =>
      let (result, channel) := lane.channel.send how sighting
      (result, tracker.setLane id { lane with channel := channel })

def found (tracker : Tracker) (path : IntakePath) (report : AdvertisementReport) :
    Except Error (Option Sighting) :=
  match path with
  | .iBeacon => { uuid := tracker.config.proximityUuid : IBeaconIntake }.sighting report
  | .overflowArea =>
      { extractor := ⟨tracker.config.payloadByteCount.toNat⟩ : OverflowIntake }.sighting report

-- Asks the pumps that hold the current token to stop.
def cancel (tracker : Tracker) : Tracker :=
  { tracker with cancelled := tracker.token :: tracker.cancelled }

/-- Awaits tasks one after another: nothing while the next one runs, an error at the first one whose
pump failed, for the cause that is given. -/
def awaitTasks (tracker : Tracker) (cause : String) : List PumpId → Option (Except Error Unit)
  | [] => some (.ok ())
  | id :: rest =>
      match (tracker.lane? id).map Lane.pump with
      | some .running => none
      | some .failed => some (.error (.intakeTaskFailed cause))
      | some .stopped | none => tracker.awaitTasks cause rest

-- Whatever the outcome, the tracker gives up its tasks once it has awaited them.
def join (tracker : Tracker) (cause : String) : Option (Except Error Unit × Tracker) :=
  (tracker.awaitTasks cause tracker.tasks).map fun result => (result, { tracker with tasks := [] })

def nearby (tracker : Tracker) : List BeaconRecord :=
  tracker.registry.snapshot

end Tracker

end BeaconWatch
