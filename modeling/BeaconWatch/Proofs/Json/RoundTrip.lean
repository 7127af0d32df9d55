import BeaconWatch.Proofs.Json.Documents

/-!
Configurations that are read back as they were written. Their UUIDs and counts always are; an expiration of fewer than
2 ^ 23 seconds is, when the number that stands for it carries its double.
-/

set_option autoImplicit false

namespace BeaconWatch

open Json (readInt readSeconds)

namespace Json

variable {json : Json} {count : UInt64} {duration : Duration}

-- A count is written as an integer, and read from a text as a numeral.
theorem readUInt64_of_readInt (counted : readInt json = .ok count.toNat) : readUInt64 json = .ok count := by
  have small := count.toNat_lt
  rw [readUInt64, readBounded_of_readInt _ counted (by omega), Int.toNat_natCast, UInt64.ofNat_toNat]

theorem readDurationBy_of_readSecondsBy {reader : Numeral → Option Double} (small : duration.seconds < 2 ^ 23)
    (carried : readSecondsBy reader json = .ok duration.toDouble) : readDurationBy reader json = .ok duration := by
  have made : orAbort (Duration.ofDouble duration.toDouble) = .ok duration := by
    rw [Duration.ofDouble_toDouble small, orAbort]
  exact bind_eq_ok_iff.mpr ⟨_, carried, made⟩

end Json

namespace TrackerConfig

/-- A configuration that expires in fewer than 2 ^ 23 seconds is read back from its document, whatever forms of number
carry its counts and the double of its expiration; so it passes its checks, or fails them, as before. -/
theorem read_back_exactly {config : TrackerConfig} (small : config.expiration.seconds < 2 ^ 23) :
    ofJson config.toJson = .ok config ∧
      (∀ seconds size capacity, readSeconds seconds = .ok config.expiration.toDouble →
        readInt size = .ok config.payloadByteCount.toNat → readInt capacity = .ok config.channelCapacity.toNat →
        ofJson (config.toJsonOf seconds size capacity) = .ok config) ∧
      (ofJson config.toJson).map validate = .ok config.validate := by
  have carried (seconds size capacity : Json) (double : readSeconds seconds = .ok config.expiration.toDouble)
      (payload : readInt size = .ok config.payloadByteCount.toNat)
      (channel : readInt capacity = .ok config.channelCapacity.toNat) :
      ofJson (config.toJsonOf seconds size capacity) = .ok config := by
    rw [ofJson, ofJsonBy_toJsonOf (Json.readUInt64_of_readInt payload) (Json.readUInt64_of_readInt channel),
      Json.readDurationBy_of_readSecondsBy small double, Except.map]
  have written : ofJson config.toJson = .ok config := carried _ _ _ rfl rfl rfl
  refine ⟨written, carried, ?_⟩
  rw [written, Except.map]

-- The last nanosecond before the bound, written with all its digits, in a configuration that is refused.
theorem read_back_exactly_last :
    let config : TrackerConfig :=
      { expiration := ⟨(2 ^ 23 - 1) * nanosPerSecond + 999999999, by decide⟩, payloadByteCount := 0 }
    let numeral := fun digits exponent => Json.numeral ⟨false, digits, exponent, decide (exponent = 0)⟩
    config.expiration.seconds < 2 ^ 23 ∧ ofJson config.toJson = .ok config ∧
      readSeconds (numeral 8388607999999999 (-9)) = .ok config.expiration.toDouble ∧
      ofJson (.record [("proximity_uuid", .text "2f234454-cf6d-4a0f-adf2-f4911ba9ffa6"),
        ("expiration", numeral 8388607999999999 (-9)), ("payload_byte_count", numeral 0 0),
        ("channel_capacity", numeral 64 0)]) = .ok config ∧
      (ofJson config.toJson).map validate = .ok (.error (.payloadByteCount 6 0)) := by
  intro config numeral
  have small : config.expiration.seconds < 2 ^ 23 := by decide
  have double : readSeconds (numeral 8388607999999999 (-9)) = .ok config.expiration.toDouble := by decide
  have uuid : config.proximityUuid.toJson = .text "2f234454-cf6d-4a0f-adf2-f4911ba9ffa6" :=
    congrArg Json.text (by decide)
  obtain ⟨written, carried, verdict⟩ := read_back_exactly small
  have read := carried _ (numeral 0 0) (numeral 64 0) double rfl rfl
  rw [toJsonOf, uuid] at read
  exact ⟨small, written, double, read, verdict⟩

end TrackerConfig

end BeaconWatch
