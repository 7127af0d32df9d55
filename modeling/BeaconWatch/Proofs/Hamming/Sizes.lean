import BeaconWatch.Hamming.Sizes

/-!
The sender's parity count is the least that fits, and it is the number of binary digits of the core's
length, from which the receiver derives its own. A length with room for so much data beside its parity
positions is the sender's, unless it is a power of two. In words the search ends in time.
-/

set_option autoImplicit false

namespace BeaconWatch.Hamming

theorem isPowerOfTwo_iff (position : Nat) : isPowerOfTwo position = true ↔ ∃ group, position = 2 ^ group := by
  rw [isPowerOfTwo, beq_iff_eq]
  constructor
  · intro power
    exact ⟨position.log2, power.symm⟩
  · rintro ⟨group, rfl⟩
    rw [Nat.log2_two_pow]

@[simp] theorem isPowerOfTwo_two_pow (group : Nat) : isPowerOfTwo (2 ^ group) = true :=
  (isPowerOfTwo_iff _).mpr ⟨group, rfl⟩

theorem fits_iff (dataLength parity : Nat) :
    fits dataLength parity = true ↔ dataLength + parity + 1 ≤ 2 ^ parity := by
  simp [fits]

theorem searchParity_least (dataLength steps parity : Nat)
    (fitting : fits dataLength (parity + steps) = true) :
    fits dataLength (searchParity dataLength steps parity) = true ∧
      ∀ count, parity ≤ count → count < searchParity dataLength steps parity →
        fits dataLength count = false := by
  induction steps generalizing parity with
  | zero => exact ⟨fitting, fun count low high => absurd high (Nat.not_lt.mpr low)⟩
  | succ steps ih =>
    simp only [searchParity]
    split
    case isTrue found => exact ⟨found, fun count low high => absurd high (Nat.not_lt.mpr low)⟩
    case isFalse missing =>
      obtain ⟨found, least⟩ := ih (parity + 1) (by rwa [Nat.add_assoc, Nat.add_comm 1])
      refine ⟨found, fun count low high => ?_⟩
      rcases Nat.eq_or_lt_of_le low with rfl | above
      · simpa using missing
      · exact least count above high

theorem fits_log2 (dataLength : Nat) : fits dataLength (dataLength.log2 + 2) = true := by
  rw [fits_iff]
  have below : dataLength < 2 ^ (dataLength.log2 + 1) := Nat.lt_log2_self
  have small : dataLength.log2 < 2 ^ dataLength.log2 := Nat.lt_two_pow_self
  rw [Nat.pow_succ] at below
  rw [Nat.pow_add]
  omega

theorem parityBitCount_fits (dataLength : Nat) :
    dataLength + parityBitCount dataLength + 1 ≤ 2 ^ parityBitCount dataLength :=
  (fits_iff _ _).mp (searchParity_least dataLength _ 0 (by simpa using fits_log2 dataLength)).1

theorem lt_of_lt_parityBitCount {dataLength parity : Nat} (fewer : parity < parityBitCount dataLength) :
    2 ^ parity < dataLength + parity + 1 := by
  have h := (searchParity_least dataLength _ 0 (by simpa using fits_log2 dataLength)).2 parity (by omega) fewer
  rw [← Bool.not_eq_true, fits_iff] at h
  omega

theorem parityBitCount_le_iff (dataLength parity : Nat) :
    parityBitCount dataLength ≤ parity ↔ dataLength + parity + 1 ≤ 2 ^ parity := by
  constructor
  · intro enough
    obtain ⟨more, rfl⟩ := Nat.exists_eq_add_of_le enough
    have base := parityBitCount_fits dataLength
    induction more with
    | zero => simpa using base
    | succ more ih =>
      have h := ih (by omega)
      rw [← Nat.add_assoc (parityBitCount dataLength), Nat.pow_succ]
      omega
  · intro fitting
    apply Nat.le_of_not_lt
    intro fewer
    have h := lt_of_lt_parityBitCount fewer
    omega

theorem parityBitCount_mono {fewer more : Nat} (order : fewer ≤ more) : parityBitCount fewer ≤ parityBitCount more := by
  have fits := parityBitCount_fits more
  rw [parityBitCount_le_iff]
  omega

theorem coreLength_lt (dataLength : Nat) : coreLength dataLength < 2 ^ parityBitCount dataLength :=
  parityBitCount_fits dataLength

theorem two_pow_lt_coreLength {dataLength group : Nat} (parity : group < parityBitCount dataLength) :
    2 ^ group < coreLength dataLength + 1 := by
  have h := lt_of_lt_parityBitCount parity
  simp only [coreLength]
  omega

theorem receiverGroupCount_le_iff (length groups : Nat) :
    receiverGroupCount length ≤ groups ↔ length < 2 ^ groups := by
  by_cases zero : length = 0
  · simp only [receiverGroupCount, zero, if_true, Nat.zero_le, Nat.two_pow_pos]
  · rw [receiverGroupCount, if_neg zero, Nat.succ_le_iff, Nat.log2_lt zero]

theorem lt_receiverGroupCount (length : Nat) : length < 2 ^ receiverGroupCount length :=
  (receiverGroupCount_le_iff _ _).mp (Nat.le_refl _)

theorem receiverGroupCount_eq_iff (length groups : Nat) :
    receiverGroupCount length = groups + 1 ↔ 2 ^ groups ≤ length ∧ length < 2 ^ (groups + 1) := by
  have upper := receiverGroupCount_le_iff length (groups + 1)
  have lower := receiverGroupCount_le_iff length groups
  omega

theorem receiverGroupCount_coreLength (dataLength : Nat) :
    receiverGroupCount (coreLength dataLength) = parityBitCount dataLength := by
  have upper := coreLength_lt dataLength
  cases count : parityBitCount dataLength with
  | zero =>
    rw [count] at upper
    have h := (receiverGroupCount_le_iff (coreLength dataLength) 0).mpr upper
    omega
  | succ parity =>
    have lower := two_pow_lt_coreLength (show parity < parityBitCount dataLength by omega)
    rw [count] at upper
    exact (receiverGroupCount_eq_iff _ _).mpr ⟨by omega, upper⟩

theorem receiverGroupCount_succ (length : Nat) :
    receiverGroupCount (length + 1) =
      receiverGroupCount length + if isPowerOfTwo (length + 1) then 1 else 0 := by
  have grown := receiverGroupCount_le_iff length
  have next := receiverGroupCount_le_iff (length + 1)
  split
  case isTrue power =>
    obtain ⟨group, power⟩ := (isPowerOfTwo_iff _).mp power
    have double : 2 ^ (group + 1) = 2 * 2 ^ group := Nat.pow_succ'
    have before : receiverGroupCount length = group := by
      cases group with
      | zero => simp [receiverGroupCount, show length = 0 by omega]
      | succ group =>
        rw [receiverGroupCount_eq_iff]
        omega
    rw [before, receiverGroupCount_eq_iff]
    omega
  case isFalse other =>
    -- No power of two lies between the two lengths, so the same number of digits holds both.
    have apart (group : Nat) : length + 1 ≠ 2 ^ group := fun power =>
      other ((isPowerOfTwo_iff _).mpr ⟨group, power⟩)
    have h1 := next (receiverGroupCount length)
    have h2 := grown (receiverGroupCount (length + 1))
    have h3 := apart (receiverGroupCount length)
    have h4 := lt_receiverGroupCount length
    have h5 := lt_receiverGroupCount (length + 1)
    omega

section

variable {length dataLength : Nat} (size : dataLength + receiverGroupCount length = length)

include size

theorem coreLength_le : coreLength dataLength ≤ length := by
  have room : dataLength + receiverGroupCount length + 1 ≤ 2 ^ receiverGroupCount length := by
    rw [size]
    exact lt_receiverGroupCount length
  have enough := (parityBitCount_le_iff dataLength _).mpr room
  rw [coreLength]
  omega

theorem coreLength_eq (other : isPowerOfTwo length = false) : coreLength dataLength = length := by
  have within := coreLength_le size
  rw [coreLength] at within ⊢
  cases groups : receiverGroupCount length with
  | zero => omega
  | succ group =>
    have digits := (receiverGroupCount_eq_iff length group).mp groups
    have apart : length ≠ 2 ^ group := by
      intro power
      rw [power, isPowerOfTwo_two_pow] at other
      contradiction
    have more : ¬ parityBitCount dataLength ≤ group := by
      rw [parityBitCount_le_iff]
      omega
    omega

end

theorem searchParity?_eq_some (dataLength steps parity : Nat) (room : parity + steps = 65)
    (word : parityBitCount dataLength < 64) (before : parity ≤ parityBitCount dataLength) :
    searchParity? dataLength steps parity = some (parityBitCount dataLength) := by
  have small := (parityBitCount_le_iff dataLength 63).mp (by omega)
  induction steps generalizing parity with
  | zero => omega
  | succ steps ih =>
    have shift := Word.powerOfTwo?_of_lt (show parity < 64 by omega)
    have sum := Word.add?_of_lt (show dataLength + parity < 2 ^ 64 by omega)
    have total := Word.add?_of_lt (show dataLength + parity + 1 < 2 ^ 64 by omega)
    simp only [searchParity?, shift, sum, total, Option.bind_eq_bind, Option.bind_some]
    split
    case isTrue more =>
      have fewer : ¬ parityBitCount dataLength ≤ parity := by rw [parityBitCount_le_iff]; omega
      exact ih (parity + 1) (by omega) (by omega)
    case isFalse enough =>
      have reached := (parityBitCount_le_iff dataLength parity).mpr (by omega)
      exact congrArg some (Nat.le_antisymm before reached)

theorem searchParity?_eq_none (dataLength steps parity : Nat) (large : 64 ≤ parityBitCount dataLength) :
    searchParity? dataLength steps parity = none := by
  induction steps generalizing parity with
  | zero => rfl
  | succ steps ih =>
    by_cases shift : parity < 64
    case neg => simp [searchParity?, Word.powerOfTwo?, shift]
    simp only [searchParity?, Word.powerOfTwo?, if_pos shift, Option.bind_eq_bind, Option.bind_some]
    cases sum : Word.add? dataLength parity with
    | none => rfl
    | some partialSum =>
      obtain ⟨rfl, -⟩ := Word.add?_eq_some_iff.mp sum
      cases total : Word.add? (dataLength + parity) 1 with
      | none => simp [total]
      | some whole =>
        obtain ⟨rfl, -⟩ := Word.add?_eq_some_iff.mp total
        have more := lt_of_lt_parityBitCount (show parity < parityBitCount dataLength by omega)
        simp [total, more, ih]

theorem parityBitCount?_eq (dataLength : Nat) :
    parityBitCount? dataLength =
      if dataLength ≤ 2 ^ 63 - 64 then some (parityBitCount dataLength) else none := by
  have limit := parityBitCount_le_iff dataLength 63
  split
  · exact searchParity?_eq_some dataLength 65 0 rfl (by omega) (by omega)
  · exact searchParity?_eq_none dataLength 65 0 (by omega)

theorem parityBitCount_lt_word {dataLength : Nat} (small : dataLength ≤ 2 ^ 63 - 64) :
    parityBitCount dataLength < 64 := by
  have limit := parityBitCount_le_iff dataLength 63
  omega

theorem codewordLength_lt {dataLength : Nat} (small : dataLength ≤ 2 ^ 63 - 64) :
    codewordLength dataLength < 2 ^ 63 + 1 := by
  have parity := parityBitCount_lt_word small
  rw [codewordLength, coreLength]
  omega

theorem add?_parityBitCount {dataLength : Nat} (small : dataLength ≤ 2 ^ 63 - 64) :
    Word.add? dataLength (parityBitCount dataLength) = some (coreLength dataLength) := by
  have word := codewordLength_lt small
  rw [codewordLength, coreLength] at word
  exact Word.add?_of_lt (by omega)

theorem add?_coreLength {dataLength : Nat} (small : dataLength ≤ 2 ^ 63 - 64) :
    Word.add? (coreLength dataLength) 1 = some (codewordLength dataLength) := by
  have word := codewordLength_lt small
  rw [codewordLength] at word
  exact Word.add?_of_lt (by omega)

theorem codewordLength?_eq {dataLength : Nat} (small : dataLength ≤ 2 ^ 63 - 64) :
    codewordLength? dataLength = some (codewordLength dataLength) := by
  simp only [codewordLength?, parityBitCount?_eq, if_pos small, add?_parityBitCount small, add?_coreLength small,
    Option.bind_eq_bind, Option.bind_some]

end BeaconWatch.Hamming
