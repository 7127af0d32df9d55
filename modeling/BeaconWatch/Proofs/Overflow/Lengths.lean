import BeaconWatch.Proofs.Overflow.Framing
import BeaconWatch.Proofs.TrackerConfig
import Mathlib.Order.Monotone.Basic

/-!
How long a sent area is. It is as long as the receiver asks for and its codeword fills it up to less than a byte; a
larger payload takes a longer area, and the checks of a configuration leave just those that fit sixteen bytes.
-/

set_option autoImplicit false

namespace BeaconWatch.Overflow

open BeaconWatch.Hamming

theorem windowBits_succ (n : Nat) : windowBits n + 8 ≤ windowBits (n + 1) := by
  have parity := parityBitCount_mono (show dataBitCount n ≤ dataBitCount (n + 1) by simp only [dataBitCount]; omega)
  simp only [windowBits, coreLength, dataBitCount] at parity ⊢
  omega

theorem requiredLength_lt_succ (n : Nat) : requiredLength n < requiredLength (n + 1) := by
  have wider := windowBits_succ n
  simp only [requiredLength, codewordBits]
  omega

theorem requiredLength_strictMono : StrictMono requiredLength :=
  strictMono_nat_of_lt_succ requiredLength_lt_succ

theorem requiredLength_maxPayloadBytes : requiredLength maxPayloadBytes = 16 := by
  decide

theorem requiredLength_le_iff (n : Nat) : requiredLength n ≤ 16 ↔ n ≤ maxPayloadBytes := by
  rw [← requiredLength_maxPayloadBytes, requiredLength_strictMono.le_iff_le]

theorem length_ofBits_encode_block {n : Nat} {block : Bytes} (size : block.length = n + 1) :
    (ofBits .msbFirst (encode (toBits .lsbFirst block))).length = (codewordBits n + 7) / 8 := by
  rw [length_ofBits, length_encode_block size]

theorem drop_frame (data : Bytes) :
    (frame blankHeader data).drop headerLength = ofBits .msbFirst (encode (toBits .lsbFirst data)) :=
  List.drop_left' (by simp [blankHeader])

theorem length_frame {n : Nat} {block : Bytes} (size : block.length = n + 1) :
    (frame blankHeader block).length = requiredLength n := by
  rw [frame, List.length_append, length_ofBits_encode_block size, blankHeader, List.length_replicate, requiredLength]

/-- What is sent for a payload is as long as the receiver asks for, and its codeword leaves less than a byte of it free.
A larger payload takes more bytes; those that take more than sixteen are those that a configuration is refused for. -/
theorem sent_fits {n : Nat} (small : n ≤ 2 ^ 60 - 9) {payload : Bytes} (size : payload.length = n) :
    (∃ sent codeword, encodePayload? n payload = some (.ok sent) ∧
      Hamming.encode? (toBits .lsbFirst (sentinel :: payload)) = some codeword ∧
      (toBits .lsbFirst (sentinel :: payload)).length = 8 * (n + 1) ∧
      requiredLength? n = some sent.length ∧ codewordBits? n = some codeword.length ∧
      codeword.length ≤ 8 * (sent.drop headerLength).length ∧
      8 * (sent.drop headerLength).length < codeword.length + 8) ∧
      (∀ m, n < m → requiredLength n < requiredLength m) ∧
      (requiredLength n ≤ 16 ↔ n ≤ maxPayloadBytes) ∧
      ∀ config : TrackerConfig,
        config.validate = .error (.payloadByteCount maxPayloadBytes config.payloadByteCount.toNat) ↔
          config.expiration.nanos ≠ 0 ∧
            (config.payloadByteCount.toNat = 0 ∨ 16 < requiredLength config.payloadByteCount.toNat) := by
  have block := length_sentinel_cons size
  have data : (toBits .lsbFirst (sentinel :: payload)).length = dataBitCount n := length_toBits_block _ block
  refine ⟨⟨frame blankHeader (sentinel :: payload), encode (toBits .lsbFirst (sentinel :: payload)), ?_⟩, ?_⟩
  next =>
    have sent := (encodePayload_eq_ok_iff n payload _).mpr ⟨size, rfl⟩
    rw [encodePayload?_eq small, sent, encode?_eq (data ▸ dataBitCount_le small), requiredLength?_eq small,
      codewordBits?_eq small, length_frame block, length_encode_block block, drop_frame,
      length_ofBits_encode_block block]
    exact ⟨rfl, rfl, data, rfl, rfl, by omega, by omega⟩
  next =>
    refine ⟨fun m larger => requiredLength_strictMono larger, requiredLength_le_iff n, ?_⟩
    intro config
    rw [config.validate_eq_payloadByteCount_iff, ← Nat.not_le, ← Nat.not_le, requiredLength_le_iff]

-- The largest payload that fits fills its sixteen bytes up to one bit.
theorem sent_fits_six :
    let payload : Bytes := [1, 2, 3, 4, 5, 6]
    6 ≤ 2 ^ 60 - 9 ∧ payload.length = 6 ∧ 6 < 7 ∧ requiredLength 6 < requiredLength 7 ∧
      ∃ sent, encodePayload? 6 payload = some (.ok sent) ∧ requiredLength? 6 = some sent.length ∧ sent.length ≤ 16 := by
  intro payload
  have size : payload.length = 6 := rfl
  obtain ⟨⟨sent, _, encoded, -, -, needed, -⟩, longer, fits, -⟩ := sent_fits (by decide) size
  have same : requiredLength 6 = sent.length := Option.some.inj ((requiredLength?_eq (by decide)).symm.trans needed)
  refine ⟨by decide, size, by decide, longer 7 (by decide), sent, encoded, needed, ?_⟩
  rw [← same]
  exact fits.mpr (by decide)

end BeaconWatch.Overflow
