/-!
What the library refuses. Each error has a kind and a reason in words; a computation that cannot
answer at all, because a number leaves the range of its machine type, aborts instead.
-/

set_option autoImplicit false

namespace BeaconWatch

inductive Error
  | malformedInput (needed actual : Nat)
  | invalidPayload (reason : String)
  | invalidUuid (reason : String)
  | config (reason : String)
  | channelClosed (reason : String)
  | task (reason : String)
  deriving DecidableEq

namespace Error

def message : Error → String
  | malformedInput needed actual =>
      s!"Malformed input: need at least {needed} bytes, got {actual}"
  | invalidPayload reason => "Invalid payload: " ++ reason
  | invalidUuid reason => "Invalid proximity UUID: " ++ reason
  | config reason => "Configuration error: " ++ reason
  | channelClosed reason => "Channel closed: " ++ reason
  | task reason => "Task error: " ++ reason

def payloadLength (expected actual : Nat) : Error :=
  .invalidPayload s!"expected {expected} bytes, got {actual}"

def txPowerNotBroadcast (txPower : Int) : Error :=
  .invalidPayload s!"tx power {txPower} dBm cannot be broadcast"

def uuidLength (actual : Nat) : Error :=
  .invalidUuid s!"expected 36 characters, got {actual}"

def uuidHyphen (offset : Nat) : Error :=
  .invalidUuid s!"expected '-' at offset {offset}"

-- A text of the right shape whose digits are not hexadecimal is its own reason.
def uuidDigits (text : String) : Error :=
  .invalidUuid text

def zeroExpiration : Error :=
  .config "Expiration must be greater than zero"

def payloadByteCount (limit actual : Nat) : Error :=
  .config s!"Payload byte count must be between 1 and {limit}, got {actual}"

def zeroCapacity : Error :=
  .config "Channel capacity must be greater than zero"

def sendFailed : Error :=
  .channelClosed "Failed to send sighting: channel closed"

def alreadyStarted : Error :=
  .task "Tracker already started"

def panicked : String :=
  "task panicked"

-- The cause is what the runtime says of the task; where nobody hears it, a word that stands for it.
def intakeTaskFailed (cause : String := panicked) : Error :=
  .task ("Intake task failed: " ++ cause)

end Error

inductive Abort
  | sizeOverflow
  | capacityOutOfRange
  | secondsOutOfRange
  deriving DecidableEq

end BeaconWatch
