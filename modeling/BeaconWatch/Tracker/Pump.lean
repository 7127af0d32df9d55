import BeaconWatch.Channel
import BeaconWatch.Registry.Basic

/-!
Pumps. A pump empties the channel of one intake path, one sighting at a time. It looks at its
channel first, and at its cancellation only when it saw the channel empty. The two looks are steps of
their own: what is sent between them is not seen before the pump looks at its channel again.
-/

set_option autoImplicit false

namespace BeaconWatch

inductive Reaction
  | returns
  | fails
  deriving DecidableEq

-- A consumer's callback sees the registry as it is when it is called.
abbrev Callback := Registry → Sighting → Reaction

inductive PumpState
  | running
  | stopped
  | failed
  deriving DecidableEq

/-- One intake path of one generation: its channel, and the pump that holds the receiver. A pump that
saw its channel empty looks at its cancellation next. -/
structure Lane where
  channel : Channel Sighting
  pump : PumpState := .running
  sawEmpty : Bool := false
  deriving DecidableEq

namespace Lane

inductive Look
  | idle
  | took (sighting : Sighting)
  | ended
  deriving DecidableEq

-- A pump that ends takes its receiver with it.
def finish (lane : Lane) (pump : PumpState) : Lane :=
  { channel := lane.channel.dropReceiver, pump := pump }

-- The next look of the pump: what it takes from its channel, if anything, or whether it ends.
def look (lane : Lane) (cancelled : Bool) : Look × Lane :=
  match lane.pump, lane.sawEmpty with
  | .stopped, _ | .failed, _ => (.idle, lane)
  | .running, true =>
      if cancelled then (.ended, lane.finish .stopped) else (.idle, { lane with sawEmpty := false })
  | .running, false =>
      match lane.channel.receive with
      | (.item sighting, channel) => (.took sighting, { lane with channel := channel })
      | (.closed, _) => (.ended, lane.finish .stopped)
      | (.pending, _) => (.idle, { lane with sawEmpty := true })

end Lane

end BeaconWatch
