import BeaconWatch.Proofs.Hamming.Positions
import Mathlib.Order.Bounds.Defs

/-!
The parity counts of the two sides. The sender's is the least that leaves room for the data, which makes the places of
a core come out even: as many parity positions as parity bits, and a place for each data bit. The receiver counts one
group more when the codeword's length is a power of two, and that group is empty.
-/

set_option autoImplicit false

namespace BeaconWatch.Hamming

theorem parityBitCount_isLeast (dataLength : Nat) :
    IsLeast {count | dataLength ≤ 2 ^ count - count - 1} (parityBitCount dataLength) := by
  constructor
  next =>
    have fits := parityBitCount_fits dataLength
    change dataLength ≤ 2 ^ parityBitCount dataLength - parityBitCount dataLength - 1
    omega
  next =>
    intro count (fits : dataLength ≤ 2 ^ count - count - 1)
    -- The difference is not cut off at zero.
    have above : count < 2 ^ count := Nat.lt_two_pow_self
    rw [parityBitCount_le_iff]
    omega

theorem receiverGroupCount_two_pow (group : Nat) : receiverGroupCount (2 ^ group) = group + 1 := by
  rw [receiverGroupCount_eq_iff, Nat.pow_succ]
  have positive := Nat.two_pow_pos group
  omega

theorem filter_isPowerOfTwo (length : Nat) :
    (List.range' 1 length).filter isPowerOfTwo = (List.range (receiverGroupCount length)).map (2 ^ ·) := by
  induction length with
  | zero => rfl
  | succ length ih =>
    have grown := receiverGroupCount_succ length
    simp only [List.range'_1_concat, List.filter_append, ih, Nat.add_comm 1]
    cases power : isPowerOfTwo (length + 1) with
    | false => simp [grown, power]
    | true =>
      obtain ⟨group, place⟩ := (isPowerOfTwo_iff _).mp power
      have digits := receiverGroupCount_two_pow group
      have before : receiverGroupCount length = group := by
        simp only [place, isPowerOfTwo_two_pow, digits, if_true] at grown
        omega
      simp [before, place, digits, List.range_succ]

theorem spreadFrom?_eq (position count : Nat) (data : Bits)
    (full : (dataFrom position (spreadFrom position count data)).length = data.length) :
    spreadFrom? position count data = some (spreadFrom position count data, []) := by
  induction count generalizing position data with
  | zero =>
    obtain rfl : data = [] := List.length_eq_zero_iff.mp full.symm
    rfl
  | succ count ih =>
    cases power : isPowerOfTwo position with
    | true =>
      simp only [spreadFrom, dataFrom, power, if_true] at full
      simp [spreadFrom?, spreadFrom, power, ih _ _ full]
    | false =>
      cases data with
      | nil => simp [spreadFrom, dataFrom, power] at full
      | cons bit rest =>
        simp only [spreadFrom, dataFrom, power, Bool.false_eq_true, if_false, List.length_cons,
          Nat.add_right_cancel_iff] at full
        simp [spreadFrom?, spreadFrom, power, ih _ _ full]

theorem length_dataPositions (dataLength : Nat) : (dataPositions (coreLength dataLength)).length = dataLength := by
  let core : Bits := List.replicate (coreLength dataLength) false
  have size : core.length = coreLength dataLength := List.length_replicate
  have data := length_dataBits_of_coreLength size
  rwa [← readData_eq, size, readData, List.length_map] at data

theorem isPowerOfTwo_codewordLength (dataLength : Nat) :
    isPowerOfTwo (coreLength dataLength + 1) = true ↔ coreLength dataLength + 1 = 2 ^ parityBitCount dataLength := by
  constructor
  next =>
    intro power
    obtain ⟨group, place⟩ := (isPowerOfTwo_iff _).mp power
    have below : 2 ^ group ≤ 2 ^ parityBitCount dataLength := place ▸ coreLength_lt dataLength
    have bound := (Nat.pow_le_pow_iff_right (show 1 < 2 by omega)).mp below
    rcases Nat.lt_or_eq_of_le bound with fewer | same
    next =>
      have inside := two_pow_lt_coreLength fewer
      omega
    next => rw [place, same]
  next =>
    intro full
    rw [full, isPowerOfTwo_two_pow]

theorem receiverGroupCount_codewordLength (dataLength : Nat) :
    receiverGroupCount (coreLength dataLength + 1) =
      parityBitCount dataLength + if coreLength dataLength + 1 = 2 ^ parityBitCount dataLength then 1 else 0 := by
  simp only [receiverGroupCount_succ, receiverGroupCount_coreLength, isPowerOfTwo_codewordLength]

/-- What the sender's parity count is, what it does to the places of a core, and what the receiver makes of it. -/
theorem parity_counts_fit {dataLength : Nat} (small : dataLength ≤ 2 ^ 63 - 64) :
    ∃ parity, parityBitCount? dataLength = some parity ∧
      IsLeast {count | dataLength ≤ 2 ^ count - count - 1} parity ∧
      (List.range' 1 (dataLength + parity)).filter isPowerOfTwo = (List.range parity).map (2 ^ ·) ∧
      (dataPositions (dataLength + parity)).length = dataLength ∧
      (∀ data : Bits, data.length = dataLength →
        spreadFrom? 1 (dataLength + parity) data = some (spreadFrom 1 (dataLength + parity) data, []) ∧
        ∃ codeword, encode? data = some codeword ∧ readData (dataLength + parity) codeword = data) ∧
      (receiverGroupCount (dataLength + parity + 1) = parity ∨
        receiverGroupCount (dataLength + parity + 1) = parity + 1) ∧
      (receiverGroupCount (dataLength + parity + 1) = parity + 1 ↔ dataLength + parity + 1 = 2 ^ parity) ∧
      ∀ position, position ≤ dataLength + parity → position.testBit parity = false := by
  have core : dataLength + parityBitCount dataLength = coreLength dataLength := rfl
  have groups := receiverGroupCount_codewordLength dataLength
  refine ⟨parityBitCount dataLength, ?_, parityBitCount_isLeast dataLength, ?_⟩
  next => rw [parityBitCount?_eq, if_pos small]
  simp only [core, filter_isPowerOfTwo, receiverGroupCount_coreLength, length_dataPositions, true_and]
  refine ⟨?_, ?_, ?_, ?_⟩
  next =>
    rintro data rfl
    have full := length_dataBits_of_coreLength (length_spreadFrom 1 (coreLength data.length) data)
    refine ⟨spreadFrom?_eq 1 _ data full, encode data, encode?_eq small, ?_⟩
    rw [encode, ← length_encodeCore, readData_append, readData_eq, dataBits_encodeCore]
  next => split at groups <;> simp [groups]
  next =>
    split at groups
    next full => exact iff_of_true groups full
    next other => simp [groups, other]
  next =>
    intro position inside
    exact Nat.testBit_lt_two_pow (Nat.lt_of_le_of_lt inside (coreLength_lt dataLength))

-- Four data bits take three parity bits, and the codeword's eight bits a fourth group.
theorem parity_counts_fit_four :
    4 ≤ 2 ^ 63 - 64 ∧ ([true, false, true, true] : Bits).length = 4 ∧ 7 ≤ 4 + 3 ∧
      IsLeast {count | 4 ≤ 2 ^ count - count - 1} 3 ∧ receiverGroupCount (4 + 3 + 1) = 3 + 1 ∧
      spreadFrom? 1 (4 + 3) [true, false, true, true] =
        some ([false, false, true, false, false, true, true], []) ∧
      (7 : Nat).testBit 3 = false := by
  have size : ([true, false, true, true] : Bits).length = 4 := rfl
  have count : parityBitCount? 4 = some 3 := by decide
  obtain ⟨parity, counted, least, -, -, placed, -, groups, empty⟩ :=
    parity_counts_fit (show 4 ≤ 2 ^ 63 - 64 by decide)
  obtain rfl : parity = 3 := Option.some.inj (counted.symm.trans count)
  have spread := (placed [true, false, true, true] size).1
  exact ⟨by decide, size, by decide, least, groups.mpr rfl, spread.trans (by decide), empty 7 (by decide)⟩

end BeaconWatch.Hamming
