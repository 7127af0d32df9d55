import BeaconWatch.Channel

/-!
The sizes that a channel can have, and what it does with an item that it is given.
-/

set_option autoImplicit false

namespace BeaconWatch.Channel

variable {α : Type} {channel : Channel α}

/-- The capacities that a channel can have. -/
def IsUsable (capacity : Nat) : Prop :=
  1 ≤ capacity ∧ capacity ≤ maxCapacity

variable {capacity senders : Nat}

theorem create_eq_ok_iff : create α capacity senders = .ok channel ↔
    IsUsable capacity ∧ channel = { capacity := capacity, senders := senders } := by
  rw [create]
  split
  case isTrue usable => simp [IsUsable, usable, eq_comm]
  case isFalse unusable => simp [IsUsable, unusable]

theorem create_eq_error_iff {abort : Abort} : create α capacity senders = .error abort ↔
    ¬ IsUsable capacity ∧ abort = .capacityOutOfRange := by
  rw [create]
  split
  case isTrue usable => simp [IsUsable, usable]
  case isFalse unusable => simp [IsUsable, unusable, eq_comm]

theorem send_of_closed (closed : channel.hasReceiver = false) (how : Waiting) (item : α) :
    channel.send how item = (.closed, channel) := by
  simp [send, closed]

theorem send_cases (channel : Channel α) (how : Waiting) (item : α) :
    (channel.hasReceiver = true ∧ channel.queue.length < channel.capacity ∧
      channel.send how item = (.sent, { channel with queue := channel.queue ++ [item] })) ∨
    ∃ result, result ≠ .sent ∧ channel.send how item = (result, channel) := by
  rw [send]
  split
  case isTrue => exact .inr ⟨.closed, by simp, rfl⟩
  case isFalse receiving =>
    split
    case isTrue room => exact .inl ⟨by simpa using receiving, by simpa [hasRoom] using room, rfl⟩
    case isFalse => exact .inr ⟨.waits how, by simp, rfl⟩

end BeaconWatch.Channel
