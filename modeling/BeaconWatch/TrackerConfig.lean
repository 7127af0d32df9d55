import BeaconWatch.Overflow.Sizes
import BeaconWatch.ProximityUuid
import BeaconWatch.Time

/-!
The configuration of a tracker, and when it is usable.
-/

set_option autoImplicit false

namespace BeaconWatch

def defaultExpirationSeconds : Nat := 30

structure TrackerConfig where
  proximityUuid : ProximityUuid := .fleet
  expiration : Duration := ⟨defaultExpirationSeconds * nanosPerSecond, by decide⟩
  payloadByteCount : UInt64 := .ofNat Overflow.defaultPayloadBytes
  channelCapacity : UInt64 := 64
  deriving DecidableEq

namespace TrackerConfig

/-- Of several faults the first one counts: expiration, then payload size, then capacity. -/
def validate (config : TrackerConfig) : Except Error Unit :=
  if config.expiration.nanos = 0 then
    .error .zeroExpiration
  else if config.payloadByteCount.toNat = 0
      ∨ Overflow.maxPayloadBytes < config.payloadByteCount.toNat then
    .error (.payloadByteCount Overflow.maxPayloadBytes config.payloadByteCount.toNat)
  else if config.channelCapacity.toNat = 0 then
    .error .zeroCapacity
  else
    .ok ()

end TrackerConfig

end BeaconWatch
