import BeaconWatch.Error
import BeaconWatch.Word

/-!
One-way channels: a bounded queue with any number of senders and one receiver. A send succeeds while
there is room, has to wait when there is none, and fails once the receiver is gone.
-/

set_option autoImplicit false

namespace BeaconWatch

inductive Waiting
  | suspended
  | blocked
  deriving DecidableEq

inductive SendResult
  | sent
  | waits (how : Waiting)
  | closed
  deriving DecidableEq

inductive Received (α : Type)
  | item (value : α)
  | pending
  | closed
  deriving DecidableEq

structure Channel (α : Type) where
  capacity : Nat
  queue : List α := []
  senders : Nat := 1
  hasReceiver : Bool := true
  deriving DecidableEq

namespace Channel

variable {α : Type}

def maxCapacity : Nat := 2 ^ 61 - 1

def create (α : Type) (capacity senders : Nat) : Except Abort (Channel α) :=
  if 1 ≤ capacity ∧ capacity ≤ maxCapacity then
    .ok { capacity := capacity, senders := senders }
  else
    .error .capacityOutOfRange

def hasRoom (channel : Channel α) : Bool :=
  decide (channel.queue.length < channel.capacity)

/-- A sender waits only while somebody can still make room. -/
def makesWait (channel : Channel α) : Bool :=
  channel.hasReceiver && !channel.hasRoom

def send (channel : Channel α) (how : Waiting) (item : α) : SendResult × Channel α :=
  if !channel.hasReceiver then (.closed, channel)
  else if channel.hasRoom then (.sent, { channel with queue := channel.queue ++ [item] })
  else (.waits how, channel)

/-- Takes the next item; the end shows only when nothing is queued and no sender is left. -/
def receive (channel : Channel α) : Received α × Channel α :=
  match channel.queue with
  | item :: rest => (.item item, { channel with queue := rest })
  | [] => (if channel.senders = 0 then .closed else .pending, channel)

def dropSender (channel : Channel α) : Channel α :=
  { channel with senders := channel.senders - 1 }

-- Without its receiver a channel loses what is queued.
def dropReceiver (channel : Channel α) : Channel α :=
  { channel with queue := [], hasReceiver := false }

end Channel

end BeaconWatch
