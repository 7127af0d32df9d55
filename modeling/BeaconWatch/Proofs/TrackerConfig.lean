import BeaconWatch.TrackerConfig

/-!
Which configurations pass their checks, and which are refused for their payload size.
-/

set_option autoImplicit false

namespace BeaconWatch

namespace Error

theorem payloadByteCount_eq (limit actual : Nat) : payloadByteCount limit actual =
    .config ("Payload byte count must be between 1 and " ++ (toString limit ++ (", got " ++ toString actual))) := by
  simp only [payloadByteCount, toString, String.append_assoc]

-- The first letter tells this fault of a configuration from the others.
theorem payloadByteCount_ne (reason : String) (other : reason.toList.head? ≠ some 'P') (limit actual : Nat) :
    payloadByteCount limit actual ≠ .config reason := by
  intro same
  rw [payloadByteCount_eq] at same
  have letter : reason.toList.head? = some 'P' := by
    rw [← Error.config.inj same, String.toList_append, List.head?_append]
    rfl
  exact other letter

end Error

namespace TrackerConfig

theorem validate_eq_ok_iff (config : TrackerConfig) : config.validate = .ok () ↔
    config.expiration.nanos ≠ 0 ∧
      (1 ≤ config.payloadByteCount.toNat ∧ config.payloadByteCount.toNat ≤ Overflow.maxPayloadBytes) ∧
      1 ≤ config.channelCapacity.toNat := by
  rw [validate]
  split
  case isTrue zero => simp [zero]
  case isFalse expires =>
    split
    case isTrue outside =>
      simp only [reduceCtorEq, false_iff]
      omega
    case isFalse inside =>
      split
      case isTrue zero => simp [zero]
      case isFalse =>
        simp only [true_iff]
        omega

theorem validate_eq_payloadByteCount_iff (config : TrackerConfig) :
    config.validate = .error (.payloadByteCount Overflow.maxPayloadBytes config.payloadByteCount.toNat) ↔
      config.expiration.nanos ≠ 0 ∧
        (config.payloadByteCount.toNat = 0 ∨ Overflow.maxPayloadBytes < config.payloadByteCount.toNat) := by
  have expiration := Error.payloadByteCount_ne "Expiration must be greater than zero" (by decide)
  have capacity := Error.payloadByteCount_ne "Channel capacity must be greater than zero" (by decide)
  rw [validate]
  split
  case isTrue zero => simp [zero, Error.zeroExpiration, (expiration _ _).symm]
  case isFalse expires =>
    split
    case isTrue outside => simp [expires, outside]
    case isFalse inside =>
      split
      case isTrue => simp [inside, Error.zeroCapacity, (capacity _ _).symm]
      case isFalse => simp [inside]

end TrackerConfig

end BeaconWatch
