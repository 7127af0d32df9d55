import Mathlib.Algebra.Order.Field.Power
import Mathlib.Data.Rat.Cast.Order
import Mathlib.Tactic.FieldSimp
import Mathlib.Tactic.Linarith
import Mathlib.Tactic.NormNum
import Mathlib.Tactic.Positivity
import Mathlib.Tactic.Ring
import BeaconWatch.Double

/-!
Doubles as rational numbers. Rounding reaches a power of two a little below it, half a step of the doubles that
are less than it; between that place and the power there is no double.
-/

set_option autoImplicit false

namespace BeaconWatch

section

variable {num den bound : ℕ}

theorem le_roundRatio_iff (even : bound % 2 = 0) (positive : 0 < bound) (whole : 0 < den) :
    bound ≤ roundRatio num den ↔ 2 * (den * bound) ≤ 2 * num + den := by
  have split := Nat.div_add_mod num den
  have rest := Nat.mod_lt num whole
  rw [roundRatio]
  generalize num / den = quotient at *
  generalize num % den = remainder at *
  rcases Nat.lt_trichotomy bound (quotient + 1) with below | same | above
  · have multiple := Nat.mul_le_mul_left den (Nat.le_of_lt_succ below)
    split <;> omega
  · subst same
    rw [Nat.mul_add_one]
    split <;> omega
  · have multiple := Nat.mul_le_mul_left den (show quotient + 2 ≤ bound from above)
    rw [Nat.mul_add] at multiple
    split <;> omega

theorem le_roundRatio (whole : 0 < den) (reached : bound * den ≤ num) : bound ≤ roundRatio num den := by
  have quotient : bound ≤ num / den := (Nat.le_div_iff_mul_le whole).mpr reached
  rw [roundRatio]
  split <;> omega

theorem roundRatio_le (whole : 0 < den) (below : num < bound * den) : roundRatio num den ≤ bound := by
  have quotient : num / den < bound := (Nat.div_lt_iff_lt_mul whole).mpr below
  rw [roundRatio]
  split <;> omega

end

namespace Double

variable {num den : ℕ}

/-- The exact value of a double. -/
def toRat (value : Double) : ℚ :=
  value.mantissa * 2 ^ value.exponent

theorem toRat_nonneg (value : Double) : 0 ≤ value.toRat := by
  rw [toRat]
  positivity

-- Numerators and denominators take the two signs of an exponent apart.
theorem two_pow_toNat_div (exponent : ℤ) : (2 ^ exponent.toNat : ℚ) / 2 ^ (-exponent).toNat = 2 ^ exponent := by
  rcases Int.eq_nat_or_neg exponent with ⟨size, rfl | rfl⟩
  · simp
  · simp

theorem num_div_den (value : Double) : (value.num : ℚ) / value.den = value.toRat := by
  rw [num, den, toRat, ← two_pow_toNat_div]
  push_cast
  ring

theorem scaledNum_div_scaledDen (num den : ℕ) (exponent : ℤ) :
    (scaledNum num exponent : ℚ) / scaledDen den exponent = num / den / 2 ^ exponent := by
  rw [scaledNum, scaledDen, ← two_pow_toNat_div]
  push_cast
  field_simp

/-! The exponent at which a ratio is rounded. -/

theorem two_zpow_add (first second : ℤ) : (2 : ℚ) ^ (first + second) = 2 ^ first * 2 ^ second :=
  zpow_add₀ (by norm_num) first second

theorem two_pow_mul_zpow (low high : ℕ) {total : ℕ} (sum : low + high = total) :
    (2 : ℚ) ^ low * 2 ^ (high : ℤ) = 2 ^ total := by
  rw [zpow_natCast, ← pow_add, sum]

theorem two_zpow_le {low high : ℤ} (ordered : low ≤ high) : (2 : ℚ) ^ low ≤ 2 ^ high :=
  zpow_le_zpow_right₀ (by norm_num) ordered

theorem two_zpow_lt_two_pow {exponent : ℤ} {power : ℕ} (below : exponent < power) : (2 : ℚ) ^ exponent < 2 ^ power := by
  rw [← zpow_natCast]
  exact zpow_lt_zpow_right₀ (by norm_num) below

theorem ratio_bounds (positive : 0 < num) (whole : 0 < den) :
    (2 : ℚ) ^ ((num.log2 : ℤ) - den.log2 - 1) ≤ num / den ∧
      (num / den : ℚ) < 2 ^ ((num.log2 : ℤ) - den.log2 + 1) := by
  have numLow : (2 : ℚ) ^ (num.log2 : ℤ) ≤ num := by
    exact_mod_cast Nat.log2_self_le positive.ne'
  have numHigh : (num : ℚ) < 2 ^ ((num.log2 : ℤ) + 1) := by
    exact_mod_cast Nat.lt_log2_self (n := num)
  have denLow : (2 : ℚ) ^ (den.log2 : ℤ) ≤ den := by
    exact_mod_cast Nat.log2_self_le whole.ne'
  have denHigh : (den : ℚ) < 2 ^ ((den.log2 : ℤ) + 1) := by
    exact_mod_cast Nat.lt_log2_self (n := den)
  have wholeRat : (0 : ℚ) < den := by exact_mod_cast whole
  constructor
  · rw [le_div_iff₀ wholeRat]
    calc (2 : ℚ) ^ ((num.log2 : ℤ) - den.log2 - 1) * den
        ≤ 2 ^ ((num.log2 : ℤ) - den.log2 - 1) * 2 ^ ((den.log2 : ℤ) + 1) := by gcongr
      _ = 2 ^ (num.log2 : ℤ) := by rw [← two_zpow_add]; congr 1; ring
      _ ≤ num := numLow
  · rw [div_lt_iff₀ wholeRat]
    calc (num : ℚ) < 2 ^ ((num.log2 : ℤ) + 1) := numHigh
      _ = 2 ^ ((num.log2 : ℤ) - den.log2 + 1) * 2 ^ (den.log2 : ℤ) := by rw [← two_zpow_add]; congr 1; ring
      _ ≤ 2 ^ ((num.log2 : ℤ) - den.log2 + 1) * den := by gcongr

theorem scaledDen_pos (whole : 0 < den) (exponent : ℤ) : 0 < scaledDen den exponent :=
  Nat.mul_pos whole (Nat.two_pow_pos _)

theorem scaledNum_lt_iff (whole : 0 < den) (exponent : ℤ) (bits : ℕ) :
    scaledNum num exponent < 2 ^ bits * scaledDen den exponent ↔ (num / den : ℚ) < 2 ^ (exponent + bits) := by
  have positive : (0 : ℚ) < scaledDen den exponent := by exact_mod_cast scaledDen_pos whole exponent
  have step : (0 : ℚ) < 2 ^ exponent := by positivity
  have same := scaledNum_div_scaledDen num den exponent
  rw [two_zpow_add, zpow_natCast, mul_comm ((2 : ℚ) ^ exponent), ← div_lt_iff₀ step, ← same, div_lt_iff₀ positive]
  exact_mod_cast Iff.rfl

/-- A ratio has 53 bits before the point at its exponent, or fewer at the least one. -/
theorem exponentOf_spec (positive : 0 < num) (whole : 0 < den) :
    leastExponent ≤ exponentOf num den ∧ (num / den : ℚ) < 2 ^ (exponentOf num den + 53) ∧
      (leastExponent < exponentOf num den → (2 : ℚ) ^ (exponentOf num den + 52) ≤ num / den) := by
  obtain ⟨low, high⟩ := ratio_bounds positive whole
  obtain ⟨fitting, taken, fits, full⟩ : ∃ fitting : ℤ, exponentOf num den = max fitting leastExponent ∧
      (num / den : ℚ) < 2 ^ (fitting + 53) ∧ (2 : ℚ) ^ (fitting + 52) ≤ num / den := by
    rw [exponentOf]
    split
    next below =>
      rw [scaledNum_lt_iff whole] at below
      refine ⟨_, rfl, below.trans_le (two_zpow_le (by push_cast; omega)), le_trans (two_zpow_le (by omega)) low⟩
    next above =>
      rw [scaledNum_lt_iff whole, not_lt] at above
      refine ⟨_, rfl, high.trans_le (two_zpow_le (by omega)), le_trans (two_zpow_le (by push_cast; omega)) above⟩
  rw [taken]
  refine ⟨le_max_right _ _, fits.trans_le (two_zpow_le (by omega)), ?_⟩
  intro greater
  rwa [max_eq_left (by omega)]

/-! The nearest double. -/

/-- The doubles that rounding can give: 53 bits, of which the first is set except at the least exponent. -/
structure IsFormed (value : Double) : Prop where
  mantissa_lt : value.mantissa < 2 ^ 53
  le_exponent : leastExponent ≤ value.exponent
  le_mantissa : leastExponent < value.exponent → 2 ^ 52 ≤ value.mantissa

-- The mantissa before a carry.
def rounded (num den : ℕ) : ℕ :=
  roundRatio (scaledNum num (exponentOf num den)) (scaledDen den (exponentOf num den))

theorem rounded_le (positive : 0 < num) (whole : 0 < den) : rounded num den ≤ 2 ^ 53 := by
  obtain ⟨-, below, -⟩ := exponentOf_spec positive whole
  exact roundRatio_le (scaledDen_pos whole _) ((scaledNum_lt_iff whole _ 53).mpr below)

theorem le_rounded (positive : 0 < num) (whole : 0 < den) (greater : leastExponent < exponentOf num den) :
    2 ^ 52 ≤ rounded num den := by
  obtain ⟨-, -, full⟩ := exponentOf_spec positive whole
  apply le_roundRatio (scaledDen_pos whole _)
  rw [← not_lt, scaledNum_lt_iff whole _ 52, not_lt]
  exact full greater

theorem nearest_eq (positive : 0 < num) : nearest num den =
    if rounded num den = 2 ^ 53 then ⟨2 ^ 52, exponentOf num den + 1⟩ else ⟨rounded num den, exponentOf num den⟩ :=
  if_neg positive.ne'

-- A carry changes the form of a double, not its value.
theorem toRat_nearest (positive : 0 < num) :
    (nearest num den).toRat = rounded num den * 2 ^ exponentOf num den := by
  rw [nearest_eq positive]
  split
  next carried =>
    rw [toRat, carried, two_zpow_add]
    push_cast
    ring
  next => rfl

-- Both the ratio and its double lie between the powers that the exponent gives.
theorem toRat_nearest_le (positive : 0 < num) (whole : 0 < den) :
    (nearest num den).toRat ≤ 2 ^ (exponentOf num den + 53) := by
  have most : (rounded num den : ℚ) ≤ 2 ^ 53 := by exact_mod_cast rounded_le positive whole
  calc (nearest num den).toRat = rounded num den * 2 ^ exponentOf num den := toRat_nearest positive
    _ ≤ 2 ^ 53 * 2 ^ exponentOf num den := by gcongr
    _ = 2 ^ (exponentOf num den + 53) := by rw [add_comm, two_zpow_add]; rfl

theorem le_toRat_nearest (positive : 0 < num) (whole : 0 < den) (greater : leastExponent < exponentOf num den) :
    2 ^ (exponentOf num den + 52) ≤ (nearest num den).toRat := by
  have least : (2 : ℚ) ^ 52 ≤ rounded num den := by exact_mod_cast le_rounded positive whole greater
  calc (2 : ℚ) ^ (exponentOf num den + 52) = 2 ^ 52 * 2 ^ exponentOf num den := by rw [add_comm, two_zpow_add]; rfl
    _ ≤ rounded num den * 2 ^ exponentOf num den := by gcongr
    _ = (nearest num den).toRat := (toRat_nearest positive).symm

theorem isFormed_zero : IsFormed zero := by
  refine ⟨by decide, Int.le_refl _, ?_⟩
  intro greater
  exact absurd greater (Int.lt_irrefl _)

theorem isFormed_nearest (whole : 0 < den) : (nearest num den).IsFormed := by
  rcases Nat.eq_zero_or_pos num with rfl | positive
  · exact isFormed_zero
  obtain ⟨least, -, -⟩ := exponentOf_spec positive whole
  have most := rounded_le positive whole
  rw [nearest_eq positive]
  split
  next carried => exact ⟨by norm_num, show _ ≤ exponentOf num den + 1 by omega, fun _ => Nat.le_refl _⟩
  next uncarried => exact ⟨Nat.lt_of_le_of_ne most uncarried, least, le_rounded positive whole⟩

theorem toRat_of_isZero {value : Double} (nothing : value.isZero = true) : value.toRat = 0 := by
  rw [isZero, beq_iff_eq] at nothing
  rw [toRat, nothing, Nat.cast_zero, zero_mul]

-- A power of two less half a step of the doubles below it.
def reach (power : ℕ) : ℚ :=
  2 ^ power - 2 ^ ((power : ℤ) - 54)

theorem reach_pos (power : ℕ) : 0 < reach power := by
  have step : (2 : ℚ) ^ ((power : ℤ) - 54) < 2 ^ power := two_zpow_lt_two_pow (by omega)
  rw [reach]
  linarith

theorem reach_le (power : ℕ) : reach power ≤ 2 ^ power := by
  have step : (0 : ℚ) < 2 ^ ((power : ℤ) - 54) := by positivity
  rw [reach]
  linarith

theorem two_zpow_pred_le_reach (power : ℕ) : 2 ^ ((power : ℤ) - 1) ≤ reach power := by
  have halves : (2 : ℚ) ^ power = 2 ^ ((power : ℤ) - 1) + 2 ^ ((power : ℤ) - 1) := by
    rw [← mul_two, ← zpow_natCast, ← zpow_add_one₀ (by norm_num)]
    congr 1
    omega
  have step : (2 : ℚ) ^ ((power : ℤ) - 54) ≤ 2 ^ ((power : ℤ) - 1) := two_zpow_le (by omega)
  rw [reach, halves]
  linarith

theorem half_le_reach (power : ℕ) : 1 / 2 ≤ reach power := by
  have step := (two_zpow_le (show (-1 : ℤ) ≤ (power : ℤ) - 1 by omega)).trans (two_zpow_pred_le_reach power)
  norm_num at step
  linarith

-- A carry happens from half a step below the power on.
theorem carries_iff (whole : 0 < den) :
    2 ^ 53 ≤ rounded num den ↔ ((2 : ℚ) ^ 53 - 1 / 2) * 2 ^ exponentOf num den ≤ num / den := by
  have positive : (0 : ℚ) < scaledDen den (exponentOf num den) := by exact_mod_cast scaledDen_pos whole _
  have step : (0 : ℚ) < 2 ^ exponentOf num den := by positivity
  rw [rounded, le_roundRatio_iff (by norm_num) (by norm_num) (scaledDen_pos whole _), ← le_div_iff₀ step,
    ← scaledNum_div_scaledDen, le_div_iff₀ positive, ← Nat.cast_le (α := ℚ)]
  push_cast
  constructor <;> intro reached <;> linarith

/-- Rounding reaches a power of two from half a step below it, since a tie goes to the power. -/
theorem two_pow_le_nearest_iff (whole : 0 < den) (power : ℕ) :
    2 ^ power ≤ (nearest num den).toRat ↔ reach power ≤ num / den := by
  rcases Nat.eq_zero_or_pos num with rfl | positive
  · have below : ¬ reach power ≤ ((0 : ℕ) / den : ℚ) := by simpa using reach_pos power
    have under : ¬ (2 : ℚ) ^ power ≤ (nearest 0 den).toRat := by
      rw [show nearest 0 den = zero from rfl, toRat_of_isZero rfl, not_le]
      positivity
    exact iff_of_false under below
  obtain ⟨-, below, full⟩ := exponentOf_spec positive whole
  -- Only at one exponent does the power lie where rounding decides.
  rcases lt_trichotomy (power : ℤ) (exponentOf num den + 53) with under | same | above
  · have greater : leastExponent < exponentOf num den := by
      simp only [leastExponent]
      omega
    have reached : (2 : ℚ) ^ power ≤ 2 ^ (exponentOf num den + 52) := by
      rw [← zpow_natCast]
      exact two_zpow_le (by omega)
    exact iff_of_true (reached.trans (le_toRat_nearest positive whole greater))
      ((reach_le power).trans (reached.trans (full greater)))
  · have value : (2 : ℚ) ^ power = 2 ^ 53 * 2 ^ exponentOf num den := by
      rw [← zpow_natCast, same, add_comm, two_zpow_add]
      rfl
    have half : reach power = ((2 : ℚ) ^ 53 - 1 / 2) * 2 ^ exponentOf num den := by
      rw [reach, value, show (power : ℤ) - 54 = -1 + exponentOf num den by omega, two_zpow_add]
      norm_num
      ring
    have step : (0 : ℚ) < 2 ^ exponentOf num den := by positivity
    rw [toRat_nearest positive, value, half, ← carries_iff whole, mul_le_mul_iff_left₀ step]
    exact_mod_cast Iff.rfl
  · have far : (2 : ℚ) ^ (exponentOf num den + 53) ≤ 2 ^ ((power : ℤ) - 1) := two_zpow_le (by omega)
    have beyond : (2 : ℚ) ^ ((power : ℤ) - 1) < 2 ^ power := two_zpow_lt_two_pow (by omega)
    exact iff_of_false (not_le.mpr ((toRat_nearest_le positive whole).trans_lt (far.trans_lt beyond)))
      (not_le.mpr ((below.trans_le far).trans_le (two_zpow_pred_le_reach power)))

/-! The doubles below a power of two, and the finite ones. -/

variable {value : Double}

theorem two_pow_eq_mul (power : ℕ) : (2 : ℚ) ^ power = 2 ^ 53 * 2 ^ ((power : ℤ) - 53) := by
  rw [← zpow_natCast, ← zpow_natCast, ← two_zpow_add]
  congr 1
  push_cast
  omega

-- A finer double is rounded up to the steps below the power; a coarser one is on them.
theorem IsFormed.exists_steps (formed : value.IsFormed) {power : ℕ} (below : value.toRat < 2 ^ power) :
    ∃ count : ℕ, count + 1 ≤ 2 ^ 53 ∧ value.toRat ≤ count * 2 ^ ((power : ℤ) - 53) := by
  have step : (0 : ℚ) < 2 ^ ((power : ℤ) - 53) := by positivity
  rcases le_total ((power : ℤ) - 53) value.exponent with large | small
  · obtain ⟨extra, split⟩ := Int.le.dest large
    have same : value.toRat = (value.mantissa * 2 ^ extra : ℕ) * 2 ^ ((power : ℤ) - 53) := by
      rw [toRat, ← split, add_comm, two_zpow_add, zpow_natCast]
      push_cast
      ring
    refine ⟨value.mantissa * 2 ^ extra, ?_, same.le⟩
    rw [same, two_pow_eq_mul, mul_lt_mul_iff_left₀ step] at below
    exact_mod_cast below
  · refine ⟨value.mantissa, formed.mantissa_lt, ?_⟩
    rw [toRat]
    gcongr
    norm_num

/-- A double below a power of two is at least a step away from it. -/
theorem IsFormed.toRat_le (formed : value.IsFormed) {power : ℕ} (below : value.toRat < 2 ^ power) :
    value.toRat ≤ 2 ^ power - 2 ^ ((power : ℤ) - 53) := by
  obtain ⟨count, few, bounded⟩ := formed.exists_steps below
  have cast : (count : ℚ) + 1 ≤ 2 ^ 53 := by exact_mod_cast few
  have last : (count : ℚ) ≤ 2 ^ 53 - 1 := by linarith
  calc value.toRat ≤ count * 2 ^ ((power : ℤ) - 53) := bounded
    _ ≤ (2 ^ 53 - 1) * 2 ^ ((power : ℤ) - 53) := by gcongr
    _ = 2 ^ power - 2 ^ ((power : ℤ) - 53) := by rw [two_pow_eq_mul power]; ring

theorem IsFormed.isFinite_iff (formed : value.IsFormed) : value.isFinite = true ↔ value.toRat < 2 ^ 1024 := by
  rw [isFinite, decide_eq_true_iff, toRat]
  constructor
  · intro small
    have bits : (value.mantissa : ℚ) < 2 ^ 53 := by exact_mod_cast formed.mantissa_lt
    calc (value.mantissa : ℚ) * 2 ^ value.exponent < 2 ^ 53 * 2 ^ value.exponent := by gcongr
      _ ≤ 2 ^ 53 * 2 ^ greatestExponent := by gcongr; norm_num
      _ = 2 ^ 1024 := two_pow_mul_zpow 53 971 rfl
  · intro below
    by_contra large
    have greater : leastExponent < value.exponent := by
      simp only [leastExponent, greatestExponent] at *
      omega
    have bits : (2 : ℚ) ^ 52 ≤ value.mantissa := by exact_mod_cast formed.le_mantissa greater
    have beyond : (2 : ℚ) ^ (972 : ℤ) ≤ 2 ^ value.exponent := by
      simp only [greatestExponent] at large
      exact two_zpow_le (by omega)
    have reached : (2 : ℚ) ^ 1024 ≤ value.mantissa * 2 ^ value.exponent :=
      calc (2 : ℚ) ^ 1024 = (2 : ℚ) ^ 52 * (2 : ℚ) ^ (972 : ℤ) := (two_pow_mul_zpow 52 972 rfl).symm
        _ ≤ value.mantissa * 2 ^ value.exponent := mul_le_mul bits beyond (zpow_nonneg zero_le_two _) (Nat.cast_nonneg _)
    exact absurd below (not_lt.mpr reached)

theorem den_pos (value : Double) : 0 < value.den :=
  Nat.two_pow_pos _

theorem isFormed_add (first second : Double) : (first.add second).IsFormed :=
  isFormed_nearest (Nat.mul_pos first.den_pos second.den_pos)

-- The ratio that a sum rounds.
theorem add_ratio (first second : Double) :
    ((first.num * second.den + second.num * first.den : ℕ) / (first.den * second.den : ℕ) : ℚ) =
      first.toRat + second.toRat := by
  have firstPos : (first.den : ℚ) ≠ 0 := by exact_mod_cast first.den_pos.ne'
  have secondPos : (second.den : ℚ) ≠ 0 := by exact_mod_cast second.den_pos.ne'
  rw [← first.num_div_den, ← second.num_div_den, div_add_div _ _ firstPos secondPos, mul_comm (first.den : ℚ) second.num]
  push_cast
  rfl

theorem two_pow_le_add_iff (first second : Double) (power : ℕ) :
    2 ^ power ≤ (first.add second).toRat ↔ reach power ≤ first.toRat + second.toRat := by
  rw [add, two_pow_le_nearest_iff (Nat.mul_pos first.den_pos second.den_pos), add_ratio]

-- The ratio that a quotient rounds.
theorem div_ratio (first second : Double) :
    ((first.num * second.den : ℕ) / (first.den * second.num : ℕ) : ℚ) = first.toRat / second.toRat := by
  rw [← first.num_div_den, ← second.num_div_den, div_div_div_eq]
  push_cast
  rfl

theorem num_pos {value : Double} (positive : 0 < value.toRat) : 0 < value.num := by
  by_contra zero
  rw [← value.num_div_den, Nat.eq_zero_of_not_pos zero, Nat.cast_zero, zero_div] at positive
  exact lt_irrefl _ positive

theorem isFormed_ofNat (n : ℕ) : (ofNat n).IsFormed :=
  isFormed_nearest Nat.one_pos

theorem two_pow_le_ofNat_iff (n : ℕ) (power : ℕ) : 2 ^ power ≤ (ofNat n).toRat ↔ reach power ≤ n := by
  rw [ofNat, two_pow_le_nearest_iff Nat.one_pos, Nat.cast_one, div_one]

end Double

end BeaconWatch
