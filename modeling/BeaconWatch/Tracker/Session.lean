import BeaconWatch.Tracker.Basic

/-!
Sessions with a tracker. A session gives one command after another; after each the pumps run until
they have taken all that is queued. They also run while sightings are being given: when a sender
waits for room, and when a suspended one has sent a whole burst. Each turn of a pump takes the
clock's next reading.
-/

set_option autoImplicit false

namespace BeaconWatch

/-- A tracker, or what a dropped one leaves behind: its registry, its lanes and their pumps. The
sends are counted from the last time that all pumps ran. -/
structure Session where
  tracker : Tracker
  clock : Clock
  isHeld : Bool := true
  sends : Nat := 0

namespace Session

inductive Command
  | start
  | shutdown
  | drop
  | config
  | nearby
  | report (generation : Option Nat) (path : IntakePath) (how : Waiting)
      (reports : List AdvertisementReport)
  | submit (generation : Option Nat) (identity : BeaconIdentity) (rssi : Int32)
  | dropIntakes (generation : Option Nat)
  | seed (identity : BeaconIdentity) (rssi : Int32) (now : Timestamp)
  deriving DecidableEq

inductive Response
  | started
  | stopped
  | done
  | failed (error : Error)
  | config (config : TrackerConfig)
  | nearby (count : Nat)
  | handled (results : List Handled)
  | noIntake
  | dropped
  deriving DecidableEq

def poll (session : Session) (id : PumpId) : Polled × Session :=
  let (polled, tracker) := session.tracker.poll id session.clock.now
  (polled, { session with tracker := tracker, clock := session.clock.tick })

def pollTimes (session : Session) (id : PumpId) : Nat → List Polled × Session
  | 0 => ([], session)
  | count + 1 =>
      let (polled, session) := session.poll id
      let (later, session) := session.pollTimes id count
      (polled :: later, session)

-- Runs one pump until it is idle: a turn for every queued sighting, and one to end in.
def settlePump (session : Session) (id : PumpId) : List Polled × Session :=
  match session.tracker.lane? id with
  | none => ([], session)
  | some lane => session.pollTimes id (lane.channel.queue.length + 1)

def settlePumps (session : Session) : List PumpId → List Polled × Session
  | [] => ([], session)
  | id :: rest =>
      let (polled, session) := session.settlePump id
      let (later, session) := session.settlePumps rest
      (polled ++ later, session)

def pumpIds (session : Session) : List PumpId :=
  (List.range session.tracker.generations.length).flatMap fun index =>
    [⟨index, .iBeacon⟩, ⟨index, .overflowArea⟩]

/-- Runs all pumps until nothing is queued and those that are cancelled have ended. -/
def settle (session : Session) : List Polled × Session :=
  let (polled, session) := session.settlePumps session.pumpIds
  (polled, { session with sends := 0 })

/-- The generation that a command names, the latest one by default, if its intakes are held. -/
def intakes? (session : Session) (generation : Option Nat) : Option Nat :=
  let index := generation.getD (session.tracker.generations.length - 1)
  match session.tracker.generations[index]? with
  | some generation => if generation.hasIntakes then some index else none
  | none => none

/-- Sends in a row after which a suspended sender lets the pumps run, room or not. A blocked sender
has a thread of its own and keeps it. -/
def burst : Nat := 128

def burstEnds (session : Session) : Waiting → Bool
  | .suspended => decide (burst ≤ session.sends)
  | .blocked => false

def offer (session : Session) (id : PumpId) (how : Waiting) (sighting : Sighting) :
    SendResult × Session :=
  let (result, tracker) := session.tracker.offer id how sighting
  (result, { session with tracker := tracker, sends := session.sends + 1 })

/-- Whether the pumps run before the next sighting is given to a lane. -/
def givesWay (session : Session) (id : PumpId) (how : Waiting) : Bool :=
  session.burstEnds how || (session.tracker.lane? id).any fun lane => lane.channel.makesWait

def give (session : Session) (id : PumpId) (how : Waiting) (sighting : Sighting) :
    SendResult × List Polled × Session :=
  let (polled, session) := if session.givesWay id how then session.settle else ([], session)
  let (result, session) := session.offer id how sighting
  (result, polled, session)

def handle (session : Session) (id : PumpId) (how : Waiting) (report : AdvertisementReport) :
    Handled × List Polled × Session :=
  match screen (session.tracker.found id.path report) with
  | none => (.ignored, [], session)
  | some sighting =>
      let (result, polled, session) := session.give id how sighting
      (.given result, polled, session)

def handleAll (session : Session) (id : PumpId) (how : Waiting) :
    List AdvertisementReport → List Handled × List Polled × Session
  | [] => ([], [], session)
  | report :: rest =>
      let (result, polled, session) := session.handle id how report
      let (results, later, session) := session.handleAll id how rest
      (result :: results, polled ++ later, session)

-- The commands to the tracker itself can be given only while it is held.
def toTracker (session : Session)
    (command : Except Abort (Response × List Polled × Session)) :
    Except Abort (Response × List Polled × Session) :=
  if session.isHeld then command else .ok (.dropped, [], session)

def shutdown (session : Session) : Response × List Polled × Session :=
  let (polled, session) := { session with tracker := session.tracker.cancel : Session }.settle
  match session.tracker.join Error.panicked with
  | some (.ok (), tracker) => (.stopped, polled, { session with tracker := tracker })
  | some (.error error, tracker) => (.failed error, polled, { session with tracker := tracker })
  -- A cancelled pump has ended once the pumps have settled, so this is never met.
  | none => (.stopped, polled, session)

def perform (session : Session) : Command → Except Abort (Response × List Polled × Session)
  | .start => session.toTracker <|
      session.tracker.start.map fun
        | .ok tracker => (.started, [], { session with tracker := tracker })
        | .error error => (.failed error, [], session)
  | .shutdown => session.toTracker (.ok session.shutdown)
  | .drop => session.toTracker <|
      .ok (.done, [], { session with tracker := session.tracker.cancel, isHeld := false })
  | .config => session.toTracker (.ok (.config session.tracker.config, [], session))
  | .nearby => session.toTracker (.ok (.nearby session.tracker.nearby.length, [], session))
  | .report generation path how reports =>
      match session.intakes? generation with
      | none => .ok (.noIntake, [], session)
      | some index =>
          let (results, polled, session) := session.handleAll ⟨index, path⟩ how reports
          .ok (.handled results, polled, session)
  | .submit generation identity rssi =>
      match session.intakes? generation with
      | none => .ok (.noIntake, [], session)
      | some index =>
          let (result, polled, session) := session.give ⟨index, .iBeacon⟩ .suspended
            (.of identity rssi .iBeacon)
          .ok (.handled [.given result], polled, session)
  | .dropIntakes generation =>
      let index := generation.getD (session.tracker.generations.length - 1)
      if index < session.tracker.generations.length then
        .ok (.done, [], { session with
          tracker := session.tracker.modifyGeneration index Generation.dropIntakes })
      else
        .ok (.noIntake, [], session)
  | .seed identity rssi now =>
      .ok (.done, [], { session with
        tracker := { session.tracker with
          registry := session.tracker.registry.updateAt identity rssi now } })

/-- A command, and the pumps after it. The turns of the pumps are given in their order. -/
def step (session : Session) (command : Command) :
    Except Abort (Response × List Polled × Session) :=
  (session.perform command).map fun (response, polled, session) =>
    let (later, session) := session.settle
    (response, polled ++ later, session)

def run (session : Session) :
    List Command → Except Abort (List (Response × List Polled) × Session)
  | [] => .ok ([], session)
  | command :: rest => do
      let (response, polled, session) ← session.step command
      let (others, session) ← session.run rest
      .ok ((response, polled) :: others, session)

end Session

end BeaconWatch
