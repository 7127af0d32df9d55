import BeaconWatch.Word

/-!
Durations and points in time, exact to the nanosecond. A duration counts its seconds in a 64-bit
word, a point in time in a signed one, before or after the epoch.
-/

set_option autoImplicit false

namespace BeaconWatch

def nanosPerSecond : Nat := 1000000000

structure Duration where
  nanos : Nat
  nanos_lt : nanos < 2 ^ 64 * nanosPerSecond
  deriving DecidableEq

namespace Duration

def ofNanos? (nanos : Nat) : Option Duration :=
  if h : nanos < 2 ^ 64 * nanosPerSecond then some ⟨nanos, h⟩ else none

-- Seconds and nanoseconds together; a whole second among the nanoseconds is carried over.
def ofParts? (seconds nanos : Nat) : Option Duration :=
  ofNanos? (seconds * nanosPerSecond + nanos)

def zero : Duration :=
  ⟨0, by decide⟩

def seconds (duration : Duration) : Nat :=
  duration.nanos / nanosPerSecond

def subsecond (duration : Duration) : Nat :=
  duration.nanos % nanosPerSecond

def text (duration : Duration) : String :=
  let digits := toString duration.subsecond
  toString duration.seconds ++ "." ++ String.ofList (List.replicate (9 - digits.length) '0')
    ++ digits

end Duration

structure Timestamp where
  nanos : Int
  le_nanos : -(2 ^ 63 * nanosPerSecond) ≤ nanos
  nanos_lt : nanos < 2 ^ 63 * nanosPerSecond
  deriving DecidableEq

namespace Timestamp

def ofNanos? (nanos : Int) : Option Timestamp :=
  if h : -(2 ^ 63 * nanosPerSecond) ≤ nanos ∧ nanos < 2 ^ 63 * nanosPerSecond then
    some ⟨nanos, h.1, h.2⟩
  else
    none

def ofParts? (seconds : Int) (nanos : Nat) : Option Timestamp :=
  ofNanos? (seconds * nanosPerSecond + nanos)

def epoch : Timestamp :=
  ⟨0, by decide, by decide⟩

def seconds (time : Timestamp) : Int :=
  time.nanos / nanosPerSecond

def subsecond (time : Timestamp) : Int :=
  time.nanos % nanosPerSecond

/-- The time that passed since an earlier point; zero if that point lies ahead. -/
def since (time earlier : Timestamp) : Duration where
  nanos := (time.nanos - earlier.nanos).toNat
  nanos_lt := by
    have := time.nanos_lt
    have := earlier.le_nanos
    simp only [nanosPerSecond] at *
    omega

def afterEpoch? (duration : Duration) : Option Timestamp :=
  ofNanos? duration.nanos

end Timestamp

/-- A clock, as its readings in the order in which they are taken. -/
structure Clock where
  reading : Nat → Timestamp
  taken : Nat := 0

namespace Clock

def now (clock : Clock) : Timestamp :=
  clock.reading clock.taken

def tick (clock : Clock) : Clock :=
  { clock with taken := clock.taken + 1 }

@[simp] theorem now_tick (clock : Clock) : clock.tick.now = clock.reading (clock.taken + 1) := rfl

end Clock

end BeaconWatch
