import BeaconWatch.Proofs.Double.Accuracy
import BeaconWatch.Seconds

/-!
Seconds in doubles. A double is too great for a duration just when it is at least the power of two that bounds its
seconds, and what is written for a duration is that great when its whole seconds round up to the power. A duration of
fewer than 2 ^ 23 seconds is read back from its double to the nanosecond.
-/

set_option autoImplicit false

namespace BeaconWatch

open Double (reach)

variable {value : Double} {abort : Abort}

theorem Double.nanos_of_isZero (value : Double) (nothing : value.isZero = true) : value.nanos = 0 := by
  rw [isZero, beq_iff_eq] at nothing
  simp [nanos, num, nothing, roundRatio, value.den_pos]

/-- Rounded to nanoseconds, a double does not move over a power of two. -/
theorem Double.IsFormed.two_pow_le_nanos_iff (formed : value.IsFormed) {power : ℕ} (large : 53 ≤ power) :
    2 ^ power * nanosPerSecond ≤ value.nanos ↔ 2 ^ power ≤ value.toRat := by
  have positive : (0 : ℚ) < value.den := by exact_mod_cast value.den_pos
  have even : 2 ^ power * nanosPerSecond % 2 = 0 := by
    simp [nanosPerSecond, Nat.mul_mod]
  have nonzero : 0 < 2 ^ power * nanosPerSecond := Nat.mul_pos (Nat.two_pow_pos _) (by decide)
  have rounds : 2 ^ power * nanosPerSecond ≤ value.nanos ↔
      2 ^ power * (2 * nanosPerSecond) - 1 ≤ value.toRat * (2 * nanosPerSecond) := by
    rw [nanos, le_roundRatio_iff even nonzero value.den_pos, ← value.num_div_den, div_mul_eq_mul_div,
      le_div_iff₀ positive, ← Nat.cast_le (α := ℚ)]
    push_cast
    constructor <;> intro reached <;> linarith
  rw [rounds]
  have scale : (1 : ℚ) < 2 * nanosPerSecond := by norm_num [nanosPerSecond]
  constructor
  · intro reached
    by_contra below
    have far := formed.toRat_le (not_le.mp below)
    have step : (1 : ℚ) ≤ 2 ^ ((power : ℤ) - 53) := one_le_zpow₀ (by norm_num) (by omega)
    have away : value.toRat ≤ 2 ^ power - 1 := by linarith
    have scaled : value.toRat * (2 * nanosPerSecond) ≤ (2 ^ power - 1) * (2 * nanosPerSecond) := by gcongr
    linarith
  · intro reached
    have scaled : (2 : ℚ) ^ power * (2 * nanosPerSecond) ≤ value.toRat * (2 * nanosPerSecond) := by gcongr
    linarith

namespace Duration

theorem ofNanos?_cases (nanos : ℕ) : (∃ duration, ofNanos? nanos = some duration ∧ duration.nanos = nanos) ∨
    (ofNanos? nanos = none ∧ 2 ^ 64 * nanosPerSecond ≤ nanos) := by
  by_cases below : nanos < 2 ^ 64 * nanosPerSecond
  next => exact .inl ⟨⟨nanos, below⟩, dif_pos below, rfl⟩
  next => exact .inr ⟨dif_neg below, Nat.le_of_not_lt below⟩

theorem ofDouble_cases (value : Double) : (∃ duration, ofDouble value = .ok duration ∧ duration.nanos = value.nanos) ∨
    (ofDouble value = .error .secondsOutOfRange ∧ 2 ^ 64 * nanosPerSecond ≤ value.nanos) := by
  rw [ofDouble]
  rcases ofNanos?_cases value.nanos with ⟨duration, made, same⟩ | ⟨unmade, reached⟩
  · exact .inl ⟨duration, by rw [made]; rfl, same⟩
  · exact .inr ⟨by rw [unmade]; rfl, reached⟩

theorem ofDouble_eq_error_iff : ofDouble value = .error abort ↔
    2 ^ 64 * nanosPerSecond ≤ value.nanos ∧ abort = .secondsOutOfRange := by
  rcases ofDouble_cases value with ⟨duration, made, same⟩ | ⟨unmade, reached⟩
  · have below := duration.nanos_lt
    rw [same] at below
    simp [made, below]
  · simp [unmade, reached, eq_comm]

end Duration

namespace Timestamp

theorem afterEpoch?_eq_none_iff {duration : Duration} :
    afterEpoch? duration = none ↔ 2 ^ 63 * nanosPerSecond ≤ duration.nanos := by
  rw [afterEpoch?, ofNanos?]
  split
  next inside =>
    simp only [reduceCtorEq, false_iff]
    omega
  next outside =>
    simp only [true_iff]
    omega

theorem ofDouble_eq_error_iff : ofDouble value = .error abort ↔
    2 ^ 63 * nanosPerSecond ≤ value.nanos ∧ abort = .secondsOutOfRange := by
  rcases Duration.ofDouble_cases value with ⟨duration, made, same⟩ | ⟨unmade, reached⟩
  · rw [← same, ← afterEpoch?_eq_none_iff]
    have followed : ofDouble value = (afterEpoch? duration).elim (.error .secondsOutOfRange) .ok := by
      rw [ofDouble, made, Except.bind]
    rw [followed]
    cases afterEpoch? duration <;> simp [eq_comm]
  · have more : 2 ^ 63 * nanosPerSecond ≤ value.nanos := by omega
    have followed : ofDouble value = .error .secondsOutOfRange := by
      rw [ofDouble, unmade]
      rfl
    simp [followed, more, eq_comm]

end Timestamp

namespace Duration

theorem subsecond_lt (duration : Duration) : duration.subsecond < nanosPerSecond :=
  Nat.mod_lt _ (by decide)

theorem nanos_eq (duration : Duration) :
    (duration.nanos : ℚ) = duration.seconds * nanosPerSecond + duration.subsecond := by
  exact_mod_cast (Nat.div_add_mod' duration.nanos nanosPerSecond).symm

theorem nanosPerSecond_pos : (0 : ℚ) < nanosPerSecond := by
  norm_num [nanosPerSecond]

theorem toRat_ofNat_nanosPerSecond : (Double.ofNat nanosPerSecond).toRat = nanosPerSecond :=
  Double.toRat_ofNat (by decide)

theorem abs_fraction_sub_le (duration : Duration) :
    |((Double.ofNat duration.subsecond).div (Double.ofNat nanosPerSecond)).toRat -
      duration.subsecond / nanosPerSecond| ≤ 2 ^ (-54 : ℤ) := by
  have below := duration.subsecond_lt
  have subsecond : (Double.ofNat duration.subsecond).toRat = duration.subsecond :=
    Double.toRat_ofNat (below.trans (by decide))
  have proper : (duration.subsecond / nanosPerSecond : ℚ) < 2 ^ (0 : ℤ) := by
    rw [zpow_zero, div_lt_one nanosPerSecond_pos]
    exact_mod_cast below
  have positive : 0 < (Double.ofNat nanosPerSecond).toRat := toRat_ofNat_nanosPerSecond ▸ nanosPerSecond_pos
  rw [← subsecond, ← toRat_ofNat_nanosPerSecond] at proper
  have rounded := Double.abs_div_sub_le positive (by decide) proper
  rwa [subsecond, toRat_ofNat_nanosPerSecond, zero_sub] at rounded

-- The last nanosecond of a second is far enough from its end for rounding to stay before it.
theorem toRat_fraction_lt (duration : Duration) :
    ((Double.ofNat duration.subsecond).div (Double.ofNat nanosPerSecond)).toRat < 1 := by
  have rounded := (abs_le.mp duration.abs_fraction_sub_le).2
  have last : (duration.subsecond / nanosPerSecond : ℚ) ≤ 1 - 1 / nanosPerSecond := by
    have few : (duration.subsecond : ℚ) + 1 ≤ nanosPerSecond := by exact_mod_cast duration.subsecond_lt
    rw [div_le_iff₀ nanosPerSecond_pos, sub_mul, div_mul_cancel₀ _ nanosPerSecond_pos.ne']
    linarith
  norm_num [nanosPerSecond] at rounded last
  norm_num [nanosPerSecond]
  linarith

/-- What is written for a duration reaches a power of two with its whole seconds; the fraction of a second is too
small to close the gap. -/
theorem two_pow_le_toDouble_iff (duration : Duration) {power : ℕ} (large : 56 ≤ power) :
    2 ^ power ≤ duration.toDouble.toRat ↔ reach power ≤ duration.seconds := by
  have fraction := duration.toRat_fraction_lt
  have least := ((Double.ofNat duration.subsecond).div (Double.ofNat nanosPerSecond)).toRat_nonneg
  rw [toDouble, Double.two_pow_le_add_iff, ← Double.two_pow_le_ofNat_iff]
  constructor
  · intro reached
    by_contra below
    have away := (Double.isFormed_ofNat duration.seconds).toRat_le (not_le.mp below)
    have gap : (4 : ℚ) ≤ 2 ^ ((power : ℤ) - 54) := by
      have step := Double.two_zpow_le (show (2 : ℤ) ≤ (power : ℤ) - 54 by omega)
      norm_num at step
      exact step
    have halves : (2 : ℚ) ^ ((power : ℤ) - 53) = 2 * 2 ^ ((power : ℤ) - 54) := by
      rw [show (power : ℤ) - 53 = 1 + ((power : ℤ) - 54) by omega, Double.two_zpow_add, zpow_one]
    rw [reach] at reached
    linarith
  · intro reached
    have near := Double.reach_le power
    linarith

theorem isFormed_toDouble (duration : Duration) : duration.toDouble.IsFormed :=
  Double.isFormed_add _ _

/-! Durations that are read back. -/

-- The quotient is rounded among the doubles below one, the sum among those below the power.
theorem abs_toDouble_sub_le {duration : Duration} {power : ℕ} (bits : power ≤ 53) (small : duration.seconds < 2 ^ power) :
    |duration.toDouble.toRat - duration.nanos / nanosPerSecond| ≤ 2 ^ ((power : ℤ) - 54) + 2 ^ (-54 : ℤ) := by
  have seconds : (Double.ofNat duration.seconds).toRat = duration.seconds :=
    Double.toRat_ofNat (small.trans_le (Nat.pow_le_pow_right (by decide) bits))
  have exactly : (duration.nanos / nanosPerSecond : ℚ) =
      duration.seconds + duration.subsecond / nanosPerSecond := by
    rw [nanos_eq, add_div, mul_div_cancel_right₀ _ nanosPerSecond_pos.ne']
  have divided := duration.abs_fraction_sub_le
  have proper := duration.toRat_fraction_lt
  rw [toDouble, exactly]
  generalize (Double.ofNat duration.subsecond).div (Double.ofNat nanosPerSecond) = fraction at *
  have normal : Double.leastExponent + 53 ≤ power := by
    rw [Double.leastExponent]
    omega
  have below : (Double.ofNat duration.seconds).toRat + fraction.toRat < 2 ^ (power : ℤ) := by
    have few : (duration.seconds : ℚ) + 1 ≤ 2 ^ (power : ℤ) := by exact_mod_cast small
    rw [seconds]
    linarith
  have added := Double.abs_add_sub_le normal below
  rw [seconds] at added
  calc |((Double.ofNat duration.seconds).add fraction).toRat - (duration.seconds + duration.subsecond / nanosPerSecond)|
      ≤ |((Double.ofNat duration.seconds).add fraction).toRat - (duration.seconds + fraction.toRat)| +
          |duration.seconds + fraction.toRat - (duration.seconds + duration.subsecond / nanosPerSecond)| :=
        abs_sub_le _ _ _
    _ ≤ 2 ^ ((power : ℤ) - 54) + 2 ^ (-54 : ℤ) := by
        rw [add_sub_add_left_eq_sub]
        exact add_le_add added divided

/-- Below 2 ^ 23 seconds a duration and its double are less than half a nanosecond apart. -/
theorem nanos_toDouble {duration : Duration} (small : duration.seconds < 2 ^ 23) :
    duration.toDouble.nanos = duration.nanos := by
  apply roundRatio_eq_of_near duration.toDouble.den_pos
  have scaled : ((duration.toDouble.num * nanosPerSecond : ℕ) / duration.toDouble.den : ℚ) - duration.nanos =
      (duration.toDouble.toRat - duration.nanos / nanosPerSecond) * nanosPerSecond := by
    rw [Nat.cast_mul, ← div_mul_eq_mul_div, Double.num_div_den, sub_mul,
      div_mul_cancel₀ _ nanosPerSecond_pos.ne']
  rw [scaled, abs_mul, abs_of_pos nanosPerSecond_pos]
  calc |duration.toDouble.toRat - duration.nanos / nanosPerSecond| * nanosPerSecond
      ≤ (2 ^ (((23 : ℕ) : ℤ) - 54) + 2 ^ (-54 : ℤ)) * nanosPerSecond :=
        mul_le_mul_of_nonneg_right (abs_toDouble_sub_le (by decide) small) nanosPerSecond_pos.le
    _ < 1 / 2 := by norm_num [nanosPerSecond]

theorem ofDouble_toDouble {duration : Duration} (small : duration.seconds < 2 ^ 23) :
    ofDouble duration.toDouble = .ok duration := by
  rcases ofDouble_cases duration.toDouble with ⟨other, made, same⟩ | ⟨-, reached⟩
  next =>
    rw [nanos_toDouble small] at same
    cases other
    cases duration
    cases same
    exact made
  next =>
    rw [nanos_toDouble small] at reached
    exact absurd duration.nanos_lt (Nat.not_lt.mpr reached)

-- From 2 ^ 23 seconds on, the doubles are too far apart for some nanoseconds.
example : ofDouble (toDouble ⟨2 ^ 23 * nanosPerSecond + 1, by decide⟩) =
    .ok ⟨2 ^ 23 * nanosPerSecond + 2, by decide⟩ := by
  decide +kernel

end Duration

end BeaconWatch
