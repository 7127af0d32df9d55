import BeaconWatch.Proofs.Double
import Mathlib.Algebra.Order.Group.Abs

/-!
How far rounding moves a value: to the nearest natural number by at most a half, to the nearest double by at most half
a step of the doubles below the next power of two.
-/

set_option autoImplicit false

namespace BeaconWatch

section

variable {num den : ℕ}

theorem abs_roundRatio_sub_le (whole : 0 < den) : |(roundRatio num den : ℚ) - num / den| ≤ 1 / 2 := by
  have positive : (0 : ℚ) < den := by exact_mod_cast whole
  have split := Nat.div_add_mod num den
  have rest := Nat.mod_lt num whole
  have bounds : 2 * num ≤ 2 * (den * roundRatio num den) + den ∧ 2 * (den * roundRatio num den) ≤ 2 * num + den := by
    rw [roundRatio]
    generalize num / den = quotient at *
    generalize num % den = remainder at *
    split
    next => omega
    next =>
      rw [Nat.mul_add_one]
      omega
  have low : (2 * num : ℚ) ≤ 2 * (den * roundRatio num den) + den := by exact_mod_cast bounds.1
  have high : (2 * (den * roundRatio num den) : ℚ) ≤ 2 * num + den := by exact_mod_cast bounds.2
  rw [abs_le]
  constructor
  next =>
    have upper : (num / den : ℚ) ≤ roundRatio num den + 1 / 2 := by
      rw [div_le_iff₀ positive]
      linarith
    linarith
  next =>
    have lower : (roundRatio num den - 1 / 2 : ℚ) ≤ num / den := by
      rw [le_div_iff₀ positive]
      linarith
    linarith

-- A ratio less than a half away from a natural number is rounded to it.
theorem roundRatio_eq_of_near (whole : 0 < den) {n : ℕ} (near : |(num / den : ℚ) - n| < 1 / 2) :
    roundRatio num den = n := by
  have apart : |(roundRatio num den : ℚ) - n| < 1 :=
    calc |(roundRatio num den : ℚ) - n|
        ≤ |(roundRatio num den : ℚ) - num / den| + |(num / den : ℚ) - n| := abs_sub_le _ _ _
      _ < 1 / 2 + 1 / 2 := add_lt_add_of_le_of_lt (abs_roundRatio_sub_le whole) near
      _ = 1 := by norm_num
  obtain ⟨low, high⟩ := abs_lt.mp apart
  have below : (n : ℚ) < roundRatio num den + 1 := by linarith
  have above : (roundRatio num den : ℚ) < n + 1 := by linarith
  exact Nat.le_antisymm (Nat.le_of_lt_succ (by exact_mod_cast above)) (Nat.le_of_lt_succ (by exact_mod_cast below))

end

namespace Double

variable {num den : ℕ}

-- The 53 bits of a ratio below a power of two start below that power.
theorem exponentOf_le (positive : 0 < num) (whole : 0 < den) {power : ℤ} (normal : leastExponent + 53 ≤ power)
    (below : (num / den : ℚ) < 2 ^ power) : exponentOf num den ≤ power - 53 := by
  obtain ⟨-, -, full⟩ := exponentOf_spec positive whole
  by_cases greater : leastExponent < exponentOf num den
  next =>
    have ordered := (zpow_lt_zpow_iff_right₀ (by norm_num)).mp ((full greater).trans_lt below)
    omega
  next => omega

theorem abs_rounded_sub_le (whole : 0 < den) :
    |(rounded num den : ℚ) - num / den / 2 ^ exponentOf num den| ≤ 1 / 2 := by
  rw [rounded, ← scaledNum_div_scaledDen]
  exact abs_roundRatio_sub_le (scaledDen_pos whole _)

theorem abs_toRat_nearest_sub_le (whole : 0 < den) {power : ℤ} (normal : leastExponent + 53 ≤ power)
    (below : (num / den : ℚ) < 2 ^ power) : |(nearest num den).toRat - num / den| ≤ 2 ^ (power - 54) := by
  rcases Nat.eq_zero_or_pos num with rfl | positive
  next =>
    rw [show nearest 0 den = zero from rfl, toRat_of_isZero rfl, Nat.cast_zero, zero_div, sub_zero, abs_zero]
    positivity
  next =>
    have step : (0 : ℚ) < 2 ^ exponentOf num den := by positivity
    have scaled : (nearest num den).toRat - num / den =
        (rounded num den - num / den / 2 ^ exponentOf num den) * 2 ^ exponentOf num den := by
      rw [toRat_nearest positive, sub_mul, div_mul_cancel₀ _ step.ne']
    calc |(nearest num den).toRat - num / den|
        = |(rounded num den : ℚ) - num / den / 2 ^ exponentOf num den| * 2 ^ exponentOf num den := by
          rw [scaled, abs_mul, abs_of_pos step]
      _ ≤ 1 / 2 * 2 ^ exponentOf num den := mul_le_mul_of_nonneg_right (abs_rounded_sub_le whole) step.le
      _ ≤ 1 / 2 * 2 ^ (power - 53) := by
          have coarsest := two_zpow_le (exponentOf_le positive whole normal below)
          linarith
      _ = 2 ^ (power - 54) := by
          rw [show power - 53 = 1 + (power - 54) by omega, two_zpow_add, zpow_one]
          ring

theorem roundRatio_one (n : ℕ) : roundRatio n 1 = n := by
  simp [roundRatio, Nat.mod_one]

-- Natural numbers of at most 53 bits are doubles.
theorem toRat_ofNat {n : ℕ} (small : n < 2 ^ 53) : (ofNat n).toRat = n := by
  rcases Nat.eq_zero_or_pos n with rfl | positive
  next => exact toRat_of_isZero rfl
  next =>
    have below : ((n : ℕ) / (1 : ℕ) : ℚ) < 2 ^ (53 : ℤ) := by
      rw [Nat.cast_one, div_one]
      exact_mod_cast small
    have whole : exponentOf n 1 ≤ 0 := exponentOf_le positive Nat.one_pos (by decide) below
    have den : scaledDen 1 (exponentOf n 1) = 1 := by
      rw [scaledDen, Int.toNat_of_nonpos whole, pow_zero, Nat.mul_one]
    have num : (scaledNum n (exponentOf n 1) : ℚ) = n / 2 ^ exponentOf n 1 := by
      have ratio := scaledNum_div_scaledDen n 1 (exponentOf n 1)
      rwa [den, Nat.cast_one, div_one, div_one] at ratio
    have step : (2 : ℚ) ^ exponentOf n 1 ≠ 0 := by positivity
    rw [ofNat, toRat_nearest positive, rounded, den, roundRatio_one, num, div_mul_cancel₀ _ step]

variable {first second : Double} {power : ℤ}

theorem abs_add_sub_le (normal : leastExponent + 53 ≤ power) (below : first.toRat + second.toRat < 2 ^ power) :
    |(first.add second).toRat - (first.toRat + second.toRat)| ≤ 2 ^ (power - 54) := by
  rw [← add_ratio] at below ⊢
  exact abs_toRat_nearest_sub_le (Nat.mul_pos first.den_pos second.den_pos) normal below

theorem abs_div_sub_le (positive : 0 < second.toRat) (normal : leastExponent + 53 ≤ power)
    (below : first.toRat / second.toRat < 2 ^ power) :
    |(first.div second).toRat - first.toRat / second.toRat| ≤ 2 ^ (power - 54) := by
  rw [← div_ratio] at below ⊢
  exact abs_toRat_nearest_sub_le (Nat.mul_pos first.den_pos (num_pos positive)) normal below

end Double

end BeaconWatch
