import BeaconWatch.Double
import BeaconWatch.Error
import BeaconWatch.Time

/-!
Durations as seconds in a double. Writing adds the seconds and the fraction in double arithmetic;
reading rounds the exact value of the double to nanoseconds, a tie going to the even count.
-/

set_option autoImplicit false

namespace BeaconWatch

/-- The nanoseconds nearest to a number of seconds. -/
def Double.nanos (value : Double) : Nat :=
  roundRatio (value.num * nanosPerSecond) value.den

namespace Duration

def toDouble (duration : Duration) : Double :=
  (Double.ofNat duration.seconds).add
    ((Double.ofNat duration.subsecond).div (Double.ofNat nanosPerSecond))

def ofDouble (value : Double) : Except Abort Duration :=
  (ofNanos? value.nanos).elim (.error .secondsOutOfRange) .ok

end Duration

namespace Timestamp

-- A point in time before the epoch is written as the epoch.
def toDouble (time : Timestamp) : Double :=
  (time.since epoch).toDouble

def ofDouble (value : Double) : Except Abort Timestamp :=
  (Duration.ofDouble value).bind fun duration =>
    (afterEpoch? duration).elim (.error .secondsOutOfRange) .ok

end Timestamp

end BeaconWatch
