import BeaconWatch.Json.Documents
import BeaconWatch.Proofs.Json.Fields
import BeaconWatch.Proofs.Seconds

/-!
Numbers of seconds. A written number becomes the nearest double; what is too great for a duration or a point in time
is told by the exact value that was written.
-/

set_option autoImplicit false

namespace BeaconWatch

open Double (reach)

theorem Decimal.num_div_den (decimal : Decimal) :
    (decimal.num : ℚ) / decimal.den = decimal.digits * 10 ^ decimal.exponent := by
  have split : (10 ^ decimal.exponent.toNat : ℚ) / 10 ^ (-decimal.exponent).toNat = 10 ^ decimal.exponent := by
    rcases Int.eq_nat_or_neg decimal.exponent with ⟨size, same | same⟩ <;> simp [same]
  rw [num, den, ← split]
  push_cast
  ring

namespace Numeral

variable {number : Numeral} {value : Double}

/-- The exact magnitude that is written. -/
def toRat (number : Numeral) : ℚ :=
  number.digits * 10 ^ number.exponent

theorem digitCount_pos (n : ℕ) : 0 < digitCount n :=
  Nat.length_toDigits_pos

theorem lt_ten_pow_digitCount (n : ℕ) : n < 10 ^ digitCount n :=
  (Nat.length_toDigits_le_iff (by decide) (digitCount_pos n)).mp (Nat.le_refl _)

theorem ten_pow_pred_digitCount_le {n : ℕ} (positive : 0 < n) : 10 ^ (digitCount n - 1) ≤ n := by
  by_contra below
  rcases Nat.lt_or_ge 1 (digitCount n) with several | single
  · have short := (Nat.length_toDigits_le_iff (by decide) (Nat.sub_pos_of_lt several)).mpr (not_le.mp below)
    have := digitCount_pos n
    rw [← digitCount] at short
    omega
  · have one : digitCount n - 1 = 0 := by omega
    rw [one] at below
    exact below positive

-- The count of the digits and the exponent tell the magnitude to a factor of ten.
theorem toRat_bounds (number : Numeral) (positive : 0 < number.digits) :
    (10 : ℚ) ^ ((digitCount number.digits : ℤ) + number.exponent - 1) ≤ number.toRat ∧
      number.toRat < 10 ^ ((digitCount number.digits : ℤ) + number.exponent) := by
  have step : (0 : ℚ) < 10 ^ number.exponent := by positivity
  have low : ((10 : ℚ) ^ (digitCount number.digits - 1)) ≤ number.digits := by
    exact_mod_cast ten_pow_pred_digitCount_le positive
  have high : (number.digits : ℚ) < 10 ^ digitCount number.digits := by
    exact_mod_cast lt_ten_pow_digitCount number.digits
  have nonempty := digitCount_pos number.digits
  have first : (10 : ℚ) ^ ((digitCount number.digits : ℤ) + number.exponent - 1) =
      10 ^ (digitCount number.digits - 1) * 10 ^ number.exponent := by
    rw [← zpow_natCast, ← zpow_add₀ (by norm_num)]
    congr 1
    omega
  have last : (10 : ℚ) ^ ((digitCount number.digits : ℤ) + number.exponent) =
      10 ^ digitCount number.digits * 10 ^ number.exponent := by
    rw [zpow_add₀ (by norm_num), zpow_natCast]
  rw [toRat, first, last]
  constructor <;> gcongr

theorem toRat_of_small (small : number.digits = 0 ∨ (digitCount number.digits : ℤ) + number.exponent ≤ -324) :
    number.toRat < 1 / 2 := by
  rcases Nat.eq_zero_or_pos number.digits with zero | positive
  · rw [toRat, zero]
    norm_num
  · have top := small.resolve_left positive.ne'
    have below := (number.toRat_bounds positive).2
    have bounded : (10 : ℚ) ^ ((digitCount number.digits : ℤ) + number.exponent) ≤ 10 ^ (-1 : ℤ) :=
      zpow_le_zpow_right₀ (by norm_num) (by omega)
    norm_num at bounded
    linarith

theorem le_toRat_of_large (large : 310 ≤ (digitCount number.digits : ℤ) + number.exponent)
    (positive : 0 < number.digits) : 2 ^ 1024 ≤ number.toRat := by
  have above := (number.toRat_bounds positive).1
  have bounded : (10 : ℚ) ^ (309 : ℤ) ≤ 10 ^ ((digitCount number.digits : ℤ) + number.exponent - 1) :=
    zpow_le_zpow_right₀ (by norm_num) (by omega)
  have known : 2 ^ 1024 ≤ 10 ^ 309 := by decide +kernel
  have cast : ((2 ^ 1024 : ℕ) : ℚ) ≤ (10 ^ 309 : ℕ) := Nat.cast_le.mpr known
  simp only [Nat.cast_pow, Nat.cast_ofNat] at cast
  exact cast.trans ((zpow_natCast (10 : ℚ) 309).symm.le.trans (bounded.trans above))

def decimal (number : Numeral) : Decimal :=
  ⟨number.digits, number.exponent⟩

theorem den_decimal_pos (number : Numeral) : 0 < number.decimal.den :=
  Nat.pow_pos (by decide)

theorem two_pow_le_nearest_decimal_iff (number : Numeral) (power : ℕ) :
    2 ^ power ≤ (Double.nearest number.decimal.num number.decimal.den).toRat ↔ reach power ≤ number.toRat := by
  rw [Double.two_pow_le_nearest_iff number.den_decimal_pos, Decimal.num_div_den, toRat, decimal]

/-- The double of a number reaches a power of two where rounding does, and there is none where rounding reaches the
power behind the finite ones. -/
theorem magnitude?_cases (number : Numeral) :
    (∃ value, number.magnitude? = some value ∧ value.IsFormed ∧ number.toRat < reach 1024 ∧
        ∀ power, 2 ^ power ≤ value.toRat ↔ reach power ≤ number.toRat) ∨
      (number.magnitude? = none ∧ reach 1024 ≤ number.toRat) := by
  rw [magnitude?]
  by_cases small : number.digits = 0 ∨ (digitCount number.digits : ℤ) + number.exponent ≤ -324
  next =>
    have below := toRat_of_small small
    refine .inl ⟨.zero, if_pos small, Double.isFormed_zero, below.trans_le (Double.half_le_reach 1024), ?_⟩
    intro power
    have beyond := Double.half_le_reach power
    rw [Double.toRat_of_isZero rfl]
    apply iff_of_false
    · rw [not_le]
      positivity
    · linarith
  by_cases large : 310 ≤ (digitCount number.digits : ℤ) + number.exponent
  next =>
    have positive : 0 < number.digits := Nat.pos_of_ne_zero fun zero => small (.inl zero)
    refine .inr ⟨by simp only [if_neg small, if_pos large], ?_⟩
    exact (Double.reach_le 1024).trans (le_toRat_of_large large positive)
  next =>
    have formed : (Double.nearest number.decimal.num number.decimal.den).IsFormed :=
      Double.isFormed_nearest number.den_decimal_pos
    have finite := formed.isFinite_iff
    rw [← not_le, number.two_pow_le_nearest_decimal_iff 1024] at finite
    simp only [if_neg small, if_neg large]
    by_cases most : reach 1024 ≤ number.toRat
    next => exact .inr ⟨if_neg fun finitely => finite.mp finitely most, most⟩
    next =>
      exact .inl ⟨_, if_pos (finite.mpr most), formed, not_le.mp most, number.two_pow_le_nearest_decimal_iff⟩

/-- A number of seconds whose double, as the reader tells it, is at least a power of two. -/
def IsReadPast (number : Numeral) (reader : Numeral → Option Double) (power : ℕ) : Prop :=
  number.negative = false ∧ ∃ value, reader number = some value ∧ 2 ^ power * nanosPerSecond ≤ value.nanos

theorem isReadPast_magnitude?_iff {power : ℕ} (large : 53 ≤ power) (number : Numeral) :
    number.IsReadPast magnitude? power ↔
      number.negative = false ∧ reach power ≤ number.toRat ∧ number.toRat < reach 1024 := by
  rw [IsReadPast]
  refine and_congr_right fun _ => ?_
  rcases number.magnitude?_cases with ⟨value, read, formed, finite, reached⟩ | ⟨unread, infinite⟩
  · rw [← reached power, ← formed.two_pow_le_nanos_iff large]
    simp [read, finite]
  · simp [unread, not_lt.mpr infinite]

end Numeral

namespace Json

variable {α : Type} {abort : Abort}

theorem abort?_orAbort_iff {result : Except Abort α} : (orAbort result).abort? = some abort ↔ result = .error abort := by
  cases result <;> simp [orAbort, Reading.abort?]

theorem abort?_readSecondsBy (reader : Numeral → Option Double) (json : Json) :
    (readSecondsBy reader json).abort? = none := by
  fun_cases readSecondsBy reader json <;> rfl

/-! A reading of seconds ends in a conversion that has its own bound. -/

section

variable {reader : Numeral → Option Double}

theorem seconds_double_cases (convert : Double → Except Abort α) (value : Double) :
    (∃ result, (readSecondsBy reader (.double value) >>= fun seconds => orAbort (convert seconds)) = .ok result) ∨
      ∃ abort, (readSecondsBy reader (.double value) >>= fun seconds => orAbort (convert seconds)) =
        .error (.aborted abort) := by
  simp only [readSecondsBy, bind, Except.bind]
  cases convert value with
  | ok result => exact .inl ⟨result, rfl⟩
  | error abort => exact .inr ⟨abort, rfl⟩

variable {convert : Double → Except Abort α} {power : ℕ} (bounded : ∀ value abort, convert value = .error abort ↔
  2 ^ power * nanosPerSecond ≤ value.nanos ∧ abort = .secondsOutOfRange)

include bounded

theorem abort?_seconds_iff {json : Json} :
    (readSecondsBy reader json >>= fun seconds => orAbort (convert seconds)).abort? = some abort ↔
      (∃ value, readSecondsBy reader json = .ok value ∧ 2 ^ power * nanosPerSecond ≤ value.nanos) ∧
        abort = .secondsOutOfRange := by
  rw [abort?_bind_iff, abort?_readSecondsBy]
  simp only [abort?_orAbort_iff, bounded, reduceCtorEq, false_or, ← and_assoc, exists_and_right]

theorem abort?_double_iff (large : 53 ≤ power) {value : Double} (formed : value.IsFormed) :
    (readSecondsBy reader (.double value) >>= fun seconds => orAbort (convert seconds)).abort? = some abort ↔
      2 ^ power ≤ value.toRat ∧ abort = .secondsOutOfRange := by
  rw [abort?_seconds_iff bounded, ← formed.two_pow_le_nanos_iff large]
  simp only [readSecondsBy, Except.ok.injEq, exists_eq_left']

/-- Whatever reads the number: it is the double that is too great, or not. -/
theorem abort?_numeral_iff (number : Numeral) :
    (readSecondsBy reader (.numeral number) >>= fun seconds => orAbort (convert seconds)).abort? = some abort ↔
      number.IsReadPast reader power ∧ abort = .secondsOutOfRange := by
  rw [abort?_seconds_iff bounded, Numeral.IsReadPast]
  refine and_congr_left fun _ => ?_
  cases read : reader number with
  | none => simp [readSecondsBy, read]
  | some value =>
    cases sign : number.negative with
    | false => simp [readSecondsBy, read, sign]
    | true =>
      cases zero : value.isZero with
      | false => simp [readSecondsBy, read, sign, zero]
      | true =>
        have below : ¬ 2 ^ power * nanosPerSecond ≤ value.nanos := by
          rw [value.nanos_of_isZero zero, Nat.not_le]
          exact Nat.mul_pos (Nat.two_pow_pos power) (by decide)
        simp only [readSecondsBy, read, sign, zero, Bool.not_true, Bool.and_false, Bool.false_eq_true, if_false,
          Except.ok.injEq, exists_eq_left', below, reduceCtorEq, false_and]

end

end Json

end BeaconWatch
