import BeaconWatch.Proofs.Bits
import BeaconWatch.Proofs.Hamming.Decoding
import Mathlib.Data.Nat.Bitwise
import Mathlib.Data.Nat.Digits.Lemmas

/-!
What an outcome of decoding says of the received word. A word is accepted as it stands, or with one bit of
its core flipped, exactly when that makes it a codeword. A sender's core never has a power of two as its
length; in a core of such a length the codewords are those of a shorter core, filled up with zeros.
-/

set_option autoImplicit false

namespace BeaconWatch.Hamming

theorem receiverGroupCount_eq_digits (length : Nat) : receiverGroupCount length = (Nat.digits 2 length).length := by
  apply Nat.le_antisymm
  · rw [receiverGroupCount_le_iff]
    exact Nat.lt_base_pow_length_digits (by omega)
  · rw [Nat.digits_length_le_iff (by omega)]
    exact lt_receiverGroupCount length

-- The sender's core of the data, filled up to a length.
def filledCore (length : Nat) (data : Bits) : Bits :=
  encodeCore data ++ List.replicate (length - coreLength data.length) false

theorem filledCore_coreLength (data : Bits) : filledCore (coreLength data.length) data = encodeCore data := by
  simp [filledCore]

@[simp] theorem positions_filledCore (length : Nat) (data : Bits) : positions (filledCore length data) = 0 := by
  have sent : positionsFrom 1 (encodeCore data) = 0 := positions_encodeCore data
  rw [positions, filledCore, positionsFrom_append, sent, positionsFrom_replicate, Nat.xor_zero]

section

variable {length : Nat} {data : Bits} (size : data.length + receiverGroupCount length = length)

include size

theorem length_filledCore : (filledCore length data).length = length := by
  have within := coreLength_le size
  rw [filledCore, List.length_append, List.length_replicate, length_encodeCore]
  omega

-- The zeros take parity positions only, for there is no room for more data.
theorem dataBits_filledCore : dataBits (filledCore length data) = data := by
  have total := length_dataBits (filledCore length data)
  have sent : dataFrom 1 (encodeCore data) = data := dataBits_encodeCore data
  rw [length_filledCore size, dataBits, filledCore, dataFrom_append, sent, List.length_append] at total
  rw [dataBits, filledCore, dataFrom_append, sent, List.append_right_eq_self, ← List.length_eq_zero_iff]
  omega

end

theorem eq_filledCore {core : Bits} (even : positions core = 0) : core = filledCore core.length (dataBits core) := by
  have size := length_dataBits core
  exact eq_of_dataBits_eq (length_filledCore size).symm (dataBits_filledCore size).symm even (positions_filledCore ..)

/-- The data's codeword for a core of some length: as sent, but for the zeros that fill up the core. -/
structure Codeword (length : Nat) (data word : Bits) : Prop where
  size_eq : data.length + (Nat.digits 2 length).length = length
  word_eq : word = filledCore length data ++ [checkBit (encodeCore data)]

theorem codeword_encode (data : Bits) : Codeword (coreLength data.length) data (encode data) where
  size_eq := by rw [← receiverGroupCount_eq_digits, receiverGroupCount_coreLength, coreLength]
  word_eq := by rw [filledCore_coreLength, encode]

theorem Codeword.eq_encode {length : Nat} {data word : Bits} (codeword : Codeword length data word)
    (other : isPowerOfTwo length = false) : word = encode data := by
  have size := codeword.size_eq
  rw [← receiverGroupCount_eq_digits] at size
  rw [codeword.word_eq, ← coreLength_eq size other, filledCore_coreLength, encode]

theorem codeword_iff (core : Bits) (check : Bool) (data : Bits) :
    Codeword core.length data (core ++ [check]) ↔
      positions core = 0 ∧ dataBits core = data ∧ checkBit data = check := by
  constructor
  · intro codeword
    have size := codeword.size_eq
    rw [← receiverGroupCount_eq_digits] at size
    obtain ⟨same, last⟩ := List.append_inj' codeword.word_eq rfl
    refine ⟨?_, ?_, ?_⟩
    · rw [same, positions_filledCore]
    · rw [same, dataBits_filledCore size]
    · simpa using last.symm
  · rintro ⟨even, rfl, rfl⟩
    refine ⟨?_, ?_⟩
    · rw [← receiverGroupCount_eq_digits, length_dataBits]
    · rw [← eq_filledCore even, checkBit_encodeCore]

theorem flip_append {core : Bits} {position : Nat} (positive : 0 < position) (inside : position ≤ core.length)
    (rest : Bits) : flip (core ++ rest) position = flip core position ++ rest := by
  rw [flip, modify_append, if_pos (by omega), flip]

theorem flip_check (core : Bits) (check : Bool) : flip (core ++ [check]) (core.length + 1) = core ++ [!check] := by
  rw [flip, modify_append, Nat.add_sub_cancel, if_neg (Nat.lt_irrefl _), Nat.sub_self, List.modify_zero_cons]

theorem flip_encode {data : Bits} {position : Nat} (positive : 1 ≤ position)
    (inside : position ≤ coreLength data.length) :
    flip (encode data) position = flip (encodeCore data) position ++ [checkBit (encodeCore data)] := by
  rw [← length_encodeCore] at inside
  exact flip_append positive inside _

theorem decode_of_even {core : Bits} (even : positions core = 0) (check : Bool) :
    decode (core ++ [check]) =
      if checkBit (dataBits core) = check then .clean (dataBits core) else .checkMismatch := by
  simp [decode_append, repair, even]

theorem decode_of_damaged {core : Bits} (damaged : positions core ≠ 0) (inside : positions core ≤ core.length)
    (check : Bool) :
    decode (core ++ [check]) =
      if checkBit (dataBits (flip core (positions core))) = check then
        .corrected (positions core) (dataBits (flip core (positions core)))
      else .checkMismatch := by
  simp [decode_append, repair, damaged, Nat.not_lt.mpr inside]

theorem decode_of_outside {core : Bits} (outside : core.length < positions core) (check : Bool) :
    decode (core ++ [check]) = .syndromeOutOfRange (positions core) := by
  simp [decode_append, outside]

theorem decode_eq_clean_iff (core : Bits) (check : Bool) (data : Bits) :
    decode (core ++ [check]) = .clean data ↔ Codeword core.length data (core ++ [check]) := by
  rw [codeword_iff]
  by_cases even : positions core = 0
  · rw [decode_of_even even]
    constructor
    · intro decoded
      split at decoded
      case isTrue agrees =>
        cases decoded
        exact ⟨even, rfl, agrees⟩
      case isFalse => cases decoded
    · rintro ⟨-, rfl, agrees⟩
      rw [if_pos agrees]
  · have refused : decode (core ++ [check]) ≠ .clean data := by
      by_cases inside : positions core ≤ core.length
      · rw [decode_of_damaged even inside]
        split <;> simp
      · rw [decode_of_outside (Nat.lt_of_not_le inside)]
        simp
    simp [even, refused]

theorem decode_eq_corrected_iff (core : Bits) (check : Bool) (position : Nat) (data : Bits) :
    decode (core ++ [check]) = .corrected position data ↔
      0 < position ∧ position ≤ core.length ∧ Codeword core.length data (flip (core ++ [check]) position) := by
  constructor
  · intro decoded
    have damaged : positions core ≠ 0 := by
      intro even
      rw [decode_of_even even] at decoded
      split at decoded <;> cases decoded
    have inside : positions core ≤ core.length := by
      apply Nat.le_of_not_lt
      intro outside
      rw [decode_of_outside outside] at decoded
      cases decoded
    rw [decode_of_damaged damaged inside] at decoded
    split at decoded
    case isFalse => cases decoded
    case isTrue agrees =>
      cases decoded
      have positive := Nat.pos_of_ne_zero damaged
      have even : positions (flip core (positions core)) = 0 := by
        rw [positions_flip core positive inside, Nat.xor_self]
      refine ⟨positive, inside, ?_⟩
      rw [flip_append positive inside, ← length_flip core (positions core), codeword_iff]
      exact ⟨even, rfl, agrees⟩
  · rintro ⟨positive, inside, codeword⟩
    rw [flip_append positive inside, ← length_flip core position, codeword_iff,
      positions_flip core positive inside] at codeword
    obtain ⟨even, rfl, agrees⟩ := codeword
    have spelled : positions core = position := Nat.xor_eq_zero_iff.mp even
    rw [decode_of_damaged (by omega) (by omega), spelled, if_pos agrees]

/-- What the receiver accepts, by its length. A core whose length is no power of two leaves no room for
zeros, so that the data is accepted from its own codeword alone. -/
theorem decodeSamples_accepts_iff {length : Nat} {samples : List UInt8} (size : samples.length = length + 1) :
    (∀ data, decodeSamples samples = .clean data ↔ Codeword length data (lowBits samples)) ∧
      (∀ position data, decodeSamples samples = .corrected position data ↔
        1 ≤ position ∧ position ≤ length ∧ Codeword length data (flip (lowBits samples) position)) ∧
      ((∀ group, length ≠ 2 ^ group) → ∀ data word, Codeword length data word → word = encode data) := by
  obtain ⟨core, check, rfl, received⟩ := exists_core_check ((length_lowBits samples).trans size)
  rw [decodeSamples, received]
  refine ⟨decode_eq_clean_iff core check, decode_eq_corrected_iff core check, ?_⟩
  intro other data word codeword
  refine codeword.eq_encode (Bool.eq_false_iff.mpr ?_)
  intro power
  obtain ⟨group, power⟩ := (isPowerOfTwo_iff _).mp power
  exact other group power

-- A core of four, the last position of which is filled up, and one of seven, the sixth position of which is damaged.
theorem decodeSamples_accepts_small :
    ([3, 255, 1, 0, 5] : List UInt8).length = 4 + 1 ∧ Codeword 4 [true] (lowBits [3, 255, 1, 0, 5]) ∧
      ([0, 1, 1, 0, 0, 0, 1, 1] : List UInt8).length = 7 + 1 ∧ (∀ group, 7 ≠ 2 ^ group) ∧
      Codeword 7 [true, false, true, true] (flip (lowBits [0, 1, 1, 0, 0, 0, 1, 1]) 6) ∧
      flip (lowBits [0, 1, 1, 0, 0, 0, 1, 1]) 6 = encode [true, false, true, true] := by
  have filledSize : ([3, 255, 1, 0, 5] : List UInt8).length = 4 + 1 := rfl
  have damagedSize : ([0, 1, 1, 0, 0, 0, 1, 1] : List UInt8).length = 7 + 1 := rfl
  have apart : ∀ group, 7 ≠ 2 ^ group := by
    intro group power
    exact absurd ((isPowerOfTwo_iff 7).mpr ⟨group, power⟩) (by decide)
  have filled := ((decodeSamples_accepts_iff filledSize).1 [true]).mp (by decide)
  obtain ⟨-, corrected, unfilled⟩ := decodeSamples_accepts_iff damagedSize
  have repaired := ((corrected 6 [true, false, true, true]).mp (by decide)).2.2
  exact ⟨filledSize, filled, damagedSize, apart, repaired, unfilled apart _ _ repaired⟩

end BeaconWatch.Hamming
