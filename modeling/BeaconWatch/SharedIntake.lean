import BeaconWatch.Intake

/-!
One channel shared by both intakes and a plain sender. Each of the three producers and the receiver
can be dropped on its own; a later use of a dropped end says so, and dropping it again does nothing.
-/

set_option autoImplicit false

namespace BeaconWatch

inductive ChannelEnd
  | sender
  | iBeacon
  | overflow
  | receiver
  deriving DecidableEq

/-- The producers that are still there share the channel's senders. -/
structure SharedIntake where
  channel : Channel Sighting
  iBeacon : IBeaconIntake
  overflow : OverflowIntake
  hasSender : Bool := true
  hasIBeacon : Bool := true
  hasOverflow : Bool := true
  deriving DecidableEq

namespace SharedIntake

inductive Step
  | handleIBeacon (how : Waiting) (report : AdvertisementReport)
  | handleOverflow (how : Waiting) (report : AdvertisementReport)
  | submit (identity : BeaconIdentity) (rssi : Int32)
  | send (how : Waiting) (sighting : Sighting)
  | receive
  | drop (part : ChannelEnd)
  deriving DecidableEq

inductive Answer
  | handled (result : Handled)
  | given (result : SendResult)
  | received (result : Received Sighting)
  | done
  | dropped
  deriving DecidableEq

def create (capacity : Nat) (iBeacon : IBeaconIntake) (overflow : OverflowIntake) :
    Except Abort SharedIntake :=
  (Channel.create Sighting capacity 3).map fun channel =>
    { channel := channel, iBeacon := iBeacon, overflow := overflow }

def has (shared : SharedIntake) : ChannelEnd → Bool
  | .sender => shared.hasSender
  | .iBeacon => shared.hasIBeacon
  | .overflow => shared.hasOverflow
  | .receiver => shared.channel.hasReceiver

def removeEnd (shared : SharedIntake) : ChannelEnd → SharedIntake
  | .sender => { shared with hasSender := false, channel := shared.channel.dropSender }
  | .iBeacon => { shared with hasIBeacon := false, channel := shared.channel.dropSender }
  | .overflow => { shared with hasOverflow := false, channel := shared.channel.dropSender }
  | .receiver => { shared with channel := shared.channel.dropReceiver }

def dropEnd (shared : SharedIntake) (part : ChannelEnd) : SharedIntake :=
  if shared.has part then shared.removeEnd part else shared

/-- The end that a step needs; a drop needs none. -/
def Step.usedEnd? : Step → Option ChannelEnd
  | handleIBeacon _ _ | submit _ _ => some .iBeacon
  | handleOverflow _ _ => some .overflow
  | send _ _ => some .sender
  | receive => some .receiver
  | drop _ => none

def perform (shared : SharedIntake) : Step → Answer × SharedIntake
  | .handleIBeacon how report =>
      let (result, channel) := shared.iBeacon.handle how report shared.channel
      (.handled result, { shared with channel := channel })
  | .handleOverflow how report =>
      let (result, channel) := shared.overflow.handle how report shared.channel
      (.handled result, { shared with channel := channel })
  | .submit identity rssi =>
      let (result, channel) := IBeaconIntake.submit .suspended identity rssi shared.channel
      (.given result, { shared with channel := channel })
  | .send how sighting =>
      let (result, channel) := shared.channel.send how sighting
      (.given result, { shared with channel := channel })
  | .receive =>
      let (result, channel) := shared.channel.receive
      (.received result, { shared with channel := channel })
  | .drop part => (.done, shared.dropEnd part)

def step (shared : SharedIntake) (step : Step) : Answer × SharedIntake :=
  if step.usedEnd?.all shared.has then shared.perform step else (.dropped, shared)

/-- The same, unless an overflow area asks for sizes that leave their words; the channel is then as
before. -/
def stepInWords (shared : SharedIntake) (next : Step) : Except Abort (Answer × SharedIntake) :=
  match next, shared.hasOverflow with
  | .handleOverflow _ report, true =>
      (shared.overflow.sightingInWords report).map fun _ => shared.step next
  | _, _ => .ok (shared.step next)

def run (shared : SharedIntake) : List Step → List Answer × SharedIntake
  | [] => ([], shared)
  | next :: rest =>
      let (answer, shared) := shared.step next
      let (answers, shared) := shared.run rest
      (answer :: answers, shared)

/-! The calls of a run, each with its answer. -/

-- A call that aborts has not touched the channel.
def tryStep (shared : SharedIntake) (next : Step) : Except Abort Answer × SharedIntake :=
  match shared.stepInWords next with
  | .ok (answer, after) => (.ok answer, after)
  | .error abort => (.error abort, shared)

def runInWords (shared : SharedIntake) : List Step → List (Step × Except Abort Answer) × SharedIntake
  | [] => ([], shared)
  | next :: rest =>
      let (answer, shared) := shared.tryStep next
      let (calls, shared) := shared.runInWords rest
      ((next, answer) :: calls, shared)

/-- The sighting that a call has to send, if it has one. -/
def offered? (shared : SharedIntake) : Step → Option Sighting
  | .handleIBeacon _ report =>
      match shared.iBeacon.sighting report with
      | .ok (some sighting) => some sighting
      | .ok none | .error _ => none
  | .handleOverflow _ report =>
      match shared.overflow.sighting report with
      | .ok (some sighting) => some sighting
      | .ok none | .error _ => none
  | .submit identity rssi => some (.of identity rssi .iBeacon)
  | .send _ sighting => some sighting
  | .receive | .drop _ => none

/-- What the channel said to a call that had something to send. -/
def Answer.result? : Answer → Option SendResult
  | handled (.given result) | given result => some result
  | handled .ignored | received _ | done | dropped => none

def isSuccess : Except Abort Answer → Bool
  | .ok answer => answer.result? = some .sent
  | .error _ => false

-- For each call that succeeds, in their order, the sighting that it had to send.
def sent (shared : SharedIntake) (calls : List (Step × Except Abort Answer)) : List (Option Sighting) :=
  (calls.filter fun call => isSuccess call.2).map fun call => shared.offered? call.1

def received (calls : List (Step × Except Abort Answer)) : List Sighting :=
  calls.filterMap fun
    | (_, .ok (.received (.item sighting))) => some sighting
    | _ => none

end SharedIntake

end BeaconWatch
