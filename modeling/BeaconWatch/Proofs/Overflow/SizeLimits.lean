import BeaconWatch.Proofs.Hamming.ParitySearch
import BeaconWatch.Proofs.Overflow.Sizes

/-!
The largest sizes that words can hold: `2 ^ 63 - 64` data bits, and with them payloads of `2 ^ 60 - 9` bytes.
-/

set_option autoImplicit false

namespace BeaconWatch.Overflow

open BeaconWatch.Hamming

/-- The parity count of so many data bits is found within sixty-four tries or not at all, and the sizes of an overflow
area are words, up to the same limit: the sentinel and the payload have eight bits a byte. -/
theorem sizes_in_words_iff :
    (∀ dataLength,
      ((∀ steps, ParitySearch.after dataLength steps ≠ .overflowed ∧
        ParitySearch.after dataLength steps ≠ .overshifted) ↔ dataLength ≤ 2 ^ 63 - 64) ∧
      ((∃ parity, ∃ steps ≤ 64, ParitySearch.after dataLength steps = .found parity) ↔
        dataLength ≤ 2 ^ 63 - 64) ∧
      ∀ parity, parityBitCount? dataLength = some parity ↔
        ∃ steps ≤ 64, ParitySearch.after dataLength steps = .found parity) ∧
    ∀ n,
      windowBits? n = (if n ≤ 2 ^ 60 - 9 then some (windowBits n) else none) ∧
      codewordBits? n = (if n ≤ 2 ^ 60 - 9 then some (codewordBits n) else none) ∧
      requiredLength? n = (if n ≤ 2 ^ 60 - 9 then some (requiredLength n) else none) := by
  constructor
  next =>
    intro dataLength
    refine ⟨ParitySearch.no_abort_iff, ?_, fun parity => ParitySearch.parityBitCount?_eq_some_iff⟩
    simp only [← ParitySearch.parityBitCount?_eq_some_iff, parityBitCount?_eq]
    by_cases small : dataLength ≤ 2 ^ 63 - 64 <;> simp [small]
  next =>
    intro n
    by_cases small : n ≤ 2 ^ 60 - 9
    next => simp only [if_pos small, windowBits?_eq small, codewordBits?_eq small, requiredLength?_eq small, and_self]
    next =>
      simp only [if_neg small, windowBits?_eq_none small, codewordBits?_eq_none small, requiredLength?_eq_none small,
        and_self]

example : requiredLength? (2 ^ 60 - 9) = some (2 ^ 60 + 8) ∧ requiredLength? (2 ^ 60 - 8) = none := by
  decide +kernel

end BeaconWatch.Overflow
