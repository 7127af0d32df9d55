import BeaconWatch.Hamming.ParitySearch
import BeaconWatch.Proofs.Hamming.Sizes

/-!
How the search for the parity count ends. Up to `2 ^ 63 - 64` data bits it finds the count within sixty-four tries.
From there on no count below sixty-four fits, so it ends in a shift by sixty-four, or before that in a sum that is
no word.
-/

set_option autoImplicit false

namespace BeaconWatch.Hamming.ParitySearch

variable {dataLength parity : Nat}

theorem step_of_overshift (far : 64 ≤ parity) : step dataLength (.trying parity) = .overshifted := by
  simp [step, Word.powerOfTwo?, Nat.not_lt.mpr far]

theorem step_of_overflow (near : parity < 64) (large : 2 ^ 64 ≤ dataLength + parity + 1) :
    step dataLength (.trying parity) = .overflowed := by
  have sum : (Word.add? dataLength parity).bind (Word.add? · 1) = none := by
    by_cases word : dataLength + parity < 2 ^ 64
    next => rw [Word.add?_of_lt word, Option.bind_some, Word.add?, Word.bound, if_neg (Nat.not_lt.mpr large)]
    next => rw [Word.add?, Word.bound, if_neg word, Option.bind_none]
  simp only [step, Word.powerOfTwo?_of_lt near, sum]

theorem step_of_words (near : parity < 64) (word : dataLength + parity + 1 < 2 ^ 64) :
    step dataLength (.trying parity) =
      if 2 ^ parity < dataLength + parity + 1 then .trying (parity + 1) else .found parity := by
  have sum : (Word.add? dataLength parity).bind (Word.add? · 1) = some (dataLength + parity + 1) := by
    rw [Word.add?_of_lt (by omega), Option.bind_some, Word.add?_of_lt word]
  simp only [step, Word.powerOfTwo?_of_lt near, sum]

/-- The count that is tried last. -/
def lastTry (dataLength : Nat) : Nat :=
  if dataLength ≤ 2 ^ 63 - 64 then parityBitCount dataLength
  else if dataLength < 2 ^ 64 - 64 then 64
  else 2 ^ 64 - 1 - dataLength

/-- What the last try comes to. -/
def verdict (dataLength : Nat) : ParitySearch :=
  if dataLength ≤ 2 ^ 63 - 64 then .found (parityBitCount dataLength)
  else if dataLength < 2 ^ 64 - 64 then .overshifted
  else .overflowed

theorem lt_of_large (large : ¬ dataLength ≤ 2 ^ 63 - 64) (near : parity < 64) :
    2 ^ parity < dataLength + parity + 1 := by
  have limit := parityBitCount_le_iff dataLength 63
  exact lt_of_lt_parityBitCount (by omega)

theorem step_trying (sofar : parity ≤ lastTry dataLength) : step dataLength (.trying parity) =
    if parity < lastTry dataLength then .trying (parity + 1) else verdict dataLength := by
  rw [lastTry] at sofar
  rw [lastTry, verdict]
  by_cases small : dataLength ≤ 2 ^ 63 - 64
  next =>
    have bound := parityBitCount_lt_word small
    have fits := parityBitCount_le_iff dataLength parity
    simp only [small, if_true] at sofar ⊢
    rw [step_of_words (by omega) (by omega)]
    by_cases more : parity < parityBitCount dataLength
    next => rw [if_pos more, if_pos (by omega)]
    next =>
      obtain rfl : parity = parityBitCount dataLength := by omega
      rw [if_neg more, if_neg (by omega)]
  next =>
    by_cases middle : dataLength < 2 ^ 64 - 64
    next =>
      simp only [small, middle, if_true, if_false] at sofar ⊢
      by_cases near : parity < 64
      next => rw [step_of_words near (by omega), if_pos (lt_of_large small near), if_pos near]
      next => rw [step_of_overshift (by omega), if_neg near]
    next =>
      simp only [small, middle, if_false] at sofar ⊢
      by_cases word : parity < 2 ^ 64 - 1 - dataLength
      next =>
        have near : parity < 64 := by omega
        rw [step_of_words near (by omega), if_pos (lt_of_large small near), if_pos word]
      next => rw [step_of_overflow (by omega) (by omega), if_neg word]

theorem step_verdict (dataLength : Nat) : step dataLength (verdict dataLength) = verdict dataLength := by
  rw [verdict]
  split
  · rfl
  · split <;> rfl

/-- The search tries every count up to the last one and ends there. -/
theorem after_eq (dataLength steps : Nat) : after dataLength steps =
    if steps ≤ lastTry dataLength then .trying steps else verdict dataLength := by
  induction steps with
  | zero => simp [after]
  | succ steps ih =>
    rw [after, ih]
    by_cases sofar : steps ≤ lastTry dataLength
    next =>
      rw [if_pos sofar, step_trying sofar]
      rfl
    next => rw [if_neg sofar, step_verdict, if_neg (by omega)]

theorem verdict_of_small (small : dataLength ≤ 2 ^ 63 - 64) :
    lastTry dataLength = parityBitCount dataLength ∧ verdict dataLength = .found (parityBitCount dataLength) := by
  simp [lastTry, verdict, small]

theorem verdict_of_large (large : ¬ dataLength ≤ 2 ^ 63 - 64) :
    verdict dataLength = .overshifted ∨ verdict dataLength = .overflowed := by
  by_cases middle : dataLength < 2 ^ 64 - 64
  next => exact .inl (by simp only [verdict, large, middle, if_true, if_false])
  next => exact .inr (by simp only [verdict, large, middle, if_false])

theorem after_eq_found_iff {steps : Nat} : after dataLength steps = .found parity ↔
    (dataLength ≤ 2 ^ 63 - 64 ∧ parity = parityBitCount dataLength) ∧ parityBitCount dataLength < steps := by
  rw [after_eq]
  by_cases small : dataLength ≤ 2 ^ 63 - 64
  next =>
    obtain ⟨last, found⟩ := verdict_of_small small
    rw [last, found]
    by_cases sofar : steps ≤ parityBitCount dataLength
    next => simp [sofar, Nat.not_lt.mpr sofar]
    next => simp [sofar, small, Nat.lt_of_not_le sofar, eq_comm]
  next =>
    rcases verdict_of_large small with ended | ended <;> rw [ended] <;> split <;> simp [small]

theorem no_abort_iff : (∀ steps, after dataLength steps ≠ .overflowed ∧ after dataLength steps ≠ .overshifted) ↔
    dataLength ≤ 2 ^ 63 - 64 := by
  constructor
  next =>
    intro never
    apply Decidable.byContradiction
    intro large
    have last := never (lastTry dataLength + 1)
    rw [after_eq, if_neg (by omega)] at last
    rcases verdict_of_large large with ended | ended <;> simp [ended] at last
  next =>
    intro small steps
    rw [after_eq, (verdict_of_small small).2]
    split <;> simp

/-- The parity count in words is what the search finds, and it takes at most sixty-four tries. -/
theorem parityBitCount?_eq_some_iff : parityBitCount? dataLength = some parity ↔
    ∃ steps ≤ 64, after dataLength steps = .found parity := by
  rw [parityBitCount?_eq]
  constructor
  next =>
    intro counted
    by_cases small : dataLength ≤ 2 ^ 63 - 64
    next =>
      obtain rfl : parityBitCount dataLength = parity := by simpa [small] using counted
      have reached := after_eq_found_iff.mpr ⟨⟨small, rfl⟩, Nat.lt_succ_self _⟩
      exact ⟨_, parityBitCount_lt_word small, reached⟩
    next => simp [small] at counted
  next =>
    intro ⟨steps, _, reached⟩
    obtain ⟨⟨small, same⟩, -⟩ := after_eq_found_iff.mp reached
    rw [if_pos small, same]

end BeaconWatch.Hamming.ParitySearch
