import BeaconWatch.Overflow.Sizes
import BeaconWatch.Proofs.Hamming.Sizes

/-!
The sizes of an overflow area are words as long as the payload is not larger than `2 ^ 60 - 9` bytes, and no longer.
-/

set_option autoImplicit false

namespace BeaconWatch.Overflow

theorem dataBitCount_le {n : Nat} (small : n ≤ 2 ^ 60 - 9) : dataBitCount n ≤ 2 ^ 63 - 64 := by
  simp only [dataBitCount]
  omega

theorem codewordBits_lt {n : Nat} (small : n ≤ 2 ^ 60 - 9) : codewordBits n < 2 ^ 63 + 1 :=
  Hamming.codewordLength_lt (dataBitCount_le small)

theorem windowBits?_eq {n : Nat} (small : n ≤ 2 ^ 60 - 9) : windowBits? n = some (windowBits n) := by
  have data := dataBitCount_le small
  have bytes := Word.add?_of_lt (show n + 1 < 2 ^ 64 by omega)
  have bits : Word.mul? 8 (n + 1) = some (dataBitCount n) := Word.mul?_of_lt (by omega)
  simp only [windowBits?, bytes, bits, Hamming.parityBitCount?_eq, if_pos data, Hamming.add?_parityBitCount data,
    windowBits, Option.bind_eq_bind, Option.bind_some]

theorem codewordBits?_eq {n : Nat} (small : n ≤ 2 ^ 60 - 9) : codewordBits? n = some (codewordBits n) := by
  have whole : Word.add? (windowBits n) 1 = some (codewordBits n) := Hamming.add?_coreLength (dataBitCount_le small)
  simp [codewordBits?, windowBits?_eq small, whole]

theorem requiredLength?_eq {n : Nat} (small : n ≤ 2 ^ 60 - 9) :
    requiredLength? n = some (requiredLength n) := by
  have word := codewordBits_lt small
  have rounded := Word.add?_of_lt (show codewordBits n + 7 < 2 ^ 64 by omega)
  have needed : Word.add? headerLength ((codewordBits n + 7) / 8) = some (requiredLength n) :=
    Word.add?_of_lt (by rw [headerLength]; omega)
  simp [requiredLength?, codewordBits?_eq small, rounded, needed]

theorem windowBits?_eq_none {n : Nat} (large : ¬ n ≤ 2 ^ 60 - 9) : windowBits? n = none := by
  rw [windowBits?]
  cases bytes : Word.add? n 1 with
  | none => rfl
  | some count =>
    obtain ⟨rfl, -⟩ := Word.add?_eq_some_iff.mp bytes
    cases bits : Word.mul? 8 (n + 1) with
    | none => simp [bits]
    | some data =>
      obtain ⟨rfl, -⟩ := Word.mul?_eq_some_iff.mp bits
      -- The bits are one word, and the search for their parity count is what fails.
      have many : ¬ 8 * (n + 1) ≤ 2 ^ 63 - 64 := by omega
      simp [bits, Hamming.parityBitCount?_eq, many]

theorem codewordBits?_eq_none {n : Nat} (large : ¬ n ≤ 2 ^ 60 - 9) : codewordBits? n = none := by
  rw [codewordBits?, windowBits?_eq_none large]
  rfl

theorem requiredLength?_eq_none {n : Nat} (large : ¬ n ≤ 2 ^ 60 - 9) : requiredLength? n = none := by
  rw [requiredLength?, codewordBits?_eq_none large]
  rfl

end BeaconWatch.Overflow
