import BeaconWatch.Proofs.Hamming.Outcomes

/-!
Sent codewords, whole or damaged in one place. Whole ones give their data back; a damaged core bit is found
and repaired; a damaged check bit is noticed, also beside a damaged core bit.
-/

set_option autoImplicit false

namespace BeaconWatch.Hamming

theorem decode_encode (data : Bits) : decode (encode data) = .clean data := by
  have sent := codeword_encode data
  rw [← length_encodeCore] at sent
  exact (decode_eq_clean_iff (encodeCore data) _ data).mpr sent

theorem length_encodeSamples (samples : List UInt8) :
    (encodeSamples samples).length = codewordLength samples.length := by
  rw [encodeSamples, length_samplesOf, length_encode, length_lowBits]

theorem lowBits_encodeSamples (samples : List UInt8) :
    lowBits (encodeSamples samples) = encode (lowBits samples) :=
  lowBits_samplesOf _

theorem encodeSamples_in_words {samples : List UInt8} (small : samples.length ≤ 2 ^ 63 - 64) :
    codewordLength? samples.length = some (encodeSamples samples).length ∧
      (encode? (lowBits samples)).map samplesOf = some (encodeSamples samples) ∧
      decode? (lowBits (encodeSamples samples)) = some (.clean (lowBits samples)) := by
  have size := length_encodeSamples samples
  have word := codewordLength_lt small
  have data : (lowBits samples).length ≤ 2 ^ 63 - 64 := by rwa [length_lowBits]
  refine ⟨?_, ?_, ?_⟩
  · rw [codewordLength?_eq small, size]
  · rw [encode?_eq data]
    rfl
  · have sent : (lowBits (encodeSamples samples)).length < 2 ^ 64 := by
      rw [length_lowBits, size]
      omega
    rw [decode?_eq sent, lowBits_encodeSamples, decode_encode]

/-- Samples of any values come back as their low bits. In words this holds up to the largest size that has a
codeword length. -/
theorem decodeSamples_encodeSamples (samples : List UInt8) :
    (encodeSamples samples).length = samples.length + parityBitCount samples.length + 1 ∧
      (encodeSamples samples).length = codewordLength samples.length ∧
      (∀ sample ∈ encodeSamples samples, sample = 0 ∨ sample = 1) ∧
      decodeSamples (encodeSamples samples) = .clean (lowBits samples) ∧
      (samples.length ≤ 2 ^ 63 - 64 →
        codewordLength? samples.length = some (encodeSamples samples).length ∧
          (encode? (lowBits samples)).map samplesOf = some (encodeSamples samples) ∧
          decode? (lowBits (encodeSamples samples)) = some (.clean (lowBits samples))) := by
  refine ⟨length_encodeSamples samples, length_encodeSamples samples, ?_, ?_, encodeSamples_in_words⟩
  · intro sample member
    exact eq_zero_or_one_of_mem_samplesOf member
  · rw [decodeSamples, lowBits_encodeSamples, decode_encode]

theorem decodeSamples_encodeSamples_odd :
    encodeSamples [255, 2, 3, 1] = [0, 1, 1, 0, 0, 1, 1, 1] ∧
      decodeSamples [0, 1, 1, 0, 0, 1, 1, 1] = .clean [true, false, true, true] ∧
      (1 ∈ encodeSamples [255, 2, 3, 1] ∧ ((1 : UInt8) = 0 ∨ (1 : UInt8) = 1)) ∧
      4 ≤ 2 ^ 63 - 64 ∧ decode? (lowBits [0, 1, 1, 0, 0, 1, 1, 1]) = some (.clean [true, false, true, true]) := by
  have sent : encodeSamples [255, 2, 3, 1] = [0, 1, 1, 0, 0, 1, 1, 1] := by decide
  have member : 1 ∈ encodeSamples [255, 2, 3, 1] := by
    rw [sent]
    decide
  obtain ⟨-, -, binary, received, words⟩ := decodeSamples_encodeSamples [255, 2, 3, 1]
  have inWords := (words (by decide)).2.2
  rw [sent] at received inWords
  exact ⟨sent, received, ⟨member, binary 1 member⟩, by decide, inWords⟩

theorem decode_encode_flip {data : Bits} {position : Nat} (positive : 1 ≤ position)
    (inside : position ≤ coreLength data.length) :
    decode (flip (encode data) position) = .corrected position data := by
  rw [flip_encode positive inside, decode_eq_corrected_iff, length_flip, length_encodeCore]
  refine ⟨positive, inside, ?_⟩
  rw [← flip_encode positive inside, flip_flip]
  exact codeword_encode data

-- What is accepted is refused with the other check bit.
theorem decode_other_check {length : Nat} {word : Bits} (size : word.length = length + 1)
    (accepted : (decode word).isOk = true) : decode (flip word (length + 1)) = .checkMismatch := by
  obtain ⟨core, check, rfl, rfl⟩ := exists_core_check size
  rw [flip_check]
  rw [decode_append] at accepted ⊢
  split at accepted
  case isTrue => cases accepted
  case isFalse inside =>
    rw [if_neg inside]
    split at accepted
    case isTrue agrees => simp [agrees]
    case isFalse => cases accepted

theorem decode_encode_flip_check (data : Bits) :
    decode (flip (encode data) (coreLength data.length + 1)) = .checkMismatch := by
  have accepted : (decode (encode data)).isOk = true := by
    rw [decode_encode]
    rfl
  exact decode_other_check (length_encode data) accepted

theorem decode_encode_flip_flip_check {data : Bits} {position : Nat} (positive : 1 ≤ position)
    (inside : position ≤ coreLength data.length) :
    decode (flip (flip (encode data) position) (coreLength data.length + 1)) = .checkMismatch := by
  have accepted : (decode (flip (encode data) position)).isOk = true := by
    rw [decode_encode_flip positive inside]
    rfl
  exact decode_other_check ((length_flip _ _).trans (length_encode data)) accepted

/-- A core bit damaged alone is repaired. The check bit, alone or with a core bit, is not. -/
theorem decode_encode_damaged (data : Bits) :
    decode (flip (encode data) (coreLength data.length + 1)) = .checkMismatch ∧
      ∀ position, 1 ≤ position → position ≤ coreLength data.length →
        decode (flip (encode data) position) = .corrected position data ∧
          decode (flip (flip (encode data) position) (coreLength data.length + 1)) = .checkMismatch := by
  refine ⟨decode_encode_flip_check data, ?_⟩
  intro position positive inside
  exact ⟨decode_encode_flip positive inside, decode_encode_flip_flip_check positive inside⟩

-- The sixth bit of a core of twelve, and its check bit.
theorem decode_encode_damaged_sixth :
    6 ≤ coreLength 8 ∧
      decode (flip (encode (lowBits [1, 0, 1, 1, 0, 1, 0, 0])) 6) = .corrected 6 (lowBits [1, 0, 1, 1, 0, 1, 0, 0]) ∧
      decode (flip (flip (encode (lowBits [1, 0, 1, 1, 0, 1, 0, 0])) 6) 13) = .checkMismatch := by
  have inside : 6 ≤ coreLength 8 := by decide
  exact ⟨inside, (decode_encode_damaged (lowBits [1, 0, 1, 1, 0, 1, 0, 0])).2 6 (by decide) inside⟩

end BeaconWatch.Hamming
