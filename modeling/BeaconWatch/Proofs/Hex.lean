import Mathlib.Data.List.Basic
import BeaconWatch.ProximityUuid.Checked

/-!
Hexadecimal digits. Written bytes are read back, read digits are written again in lower case, and the reader of
numbers, which also takes a sign, reads a pair of digits as it should.
-/

set_option autoImplicit false

namespace BeaconWatch.Hex

variable {digit : UInt8} {value : Nat} {digits bytes : Bytes}

theorem isSome_value? (digit : UInt8) : (value? digit).isSome = isDigit digit := by
  rw [Bool.eq_iff_iff]
  simp only [value?, isDigit, UInt8.le_iff_toNat_le, Bool.or_eq_true, Bool.and_eq_true, decide_eq_true_eq]
  grind

theorem value?_digitChar (small : value < 16) : value? (Nat.digitChar value).toUInt8 = some value := by
  have all : ∀ value < 16, value? (Nat.digitChar value).toUInt8 = some value := by decide
  exact all value small

theorem digitChar_of_value? (read : value? digit = some value) :
    value < 16 ∧ Nat.digitChar value = (Char.ofUInt8 digit).toLower := by
  have all : ∀ code < 103, ∀ value ∈ value? (.ofNat code),
      value < 16 ∧ Nat.digitChar value = (Char.ofUInt8 (.ofNat code)).toLower := by decide
  have bound : digit.toNat < 103 := by grind [value?]
  have here := all digit.toNat bound value
  simp only [UInt8.ofNat_toNat] at here
  exact here read

theorem decode?_cons_cons_eq_some_iff {upper lower : UInt8} {rest : Bytes} :
    decode? (upper :: lower :: rest) = some bytes ↔
      ∃ high low others, value? upper = some high ∧ value? lower = some low ∧ decode? rest = some others ∧
        bytes = .ofNat (16 * high + low) :: others := by
  simp only [decode?, Option.bind_eq_bind, Option.bind_eq_some_iff, Option.some.injEq]
  constructor
  · rintro ⟨high, upperRead, low, lowerRead, others, restRead, rfl⟩
    exact ⟨high, low, others, upperRead, lowerRead, restRead, rfl⟩
  · rintro ⟨high, low, others, upperRead, lowerRead, restRead, rfl⟩
    exact ⟨high, upperRead, low, lowerRead, others, restRead, rfl⟩

theorem toNat_join {high low : Nat} (small : high < 16) (smallToo : low < 16) :
    (UInt8.ofNat (16 * high + low)).toNat = 16 * high + low := by
  rw [UInt8.toNat_ofNat', Nat.mod_eq_of_lt (by omega)]

theorem length_of_decode? (decoded : decode? digits = some bytes) : digits.length = 2 * bytes.length := by
  fun_induction decode? digits generalizing bytes with
  | case1 =>
    cases decoded
    rfl
  | case2 => cases decoded
  | case3 upper lower rest ih =>
    obtain ⟨high, low, others, -, -, restRead, rfl⟩ := decode?_cons_cons_eq_some_iff.mp decoded
    simp only [List.length_cons, ih restRead]
    omega

theorem isDigit_of_decode? (decoded : decode? digits = some bytes) : ∀ digit ∈ digits, isDigit digit = true := by
  fun_induction decode? digits generalizing bytes with
  | case1 => simp
  | case2 => cases decoded
  | case3 upper lower rest ih =>
    obtain ⟨high, low, others, upperRead, lowerRead, restRead, rfl⟩ := decode?_cons_cons_eq_some_iff.mp decoded
    have first : isDigit upper = true := by rw [← isSome_value?, upperRead, Option.isSome_some]
    have second : isDigit lower = true := by rw [← isSome_value?, lowerRead, Option.isSome_some]
    exact List.forall_mem_cons.mpr ⟨first, List.forall_mem_cons.mpr ⟨second, ih restRead⟩⟩

theorem decode?_of_isDigit (even : digits.length % 2 = 0) (all : ∀ digit ∈ digits, isDigit digit = true) :
    ∃ bytes, decode? digits = some bytes := by
  fun_induction decode? digits with
  | case1 => exact ⟨[], rfl⟩
  | case2 => cases even
  | case3 upper lower rest ih =>
    obtain ⟨high, upperRead⟩ := Option.isSome_iff_exists.mp ((isSome_value? upper).trans (all upper (by simp)))
    obtain ⟨low, lowerRead⟩ := Option.isSome_iff_exists.mp ((isSome_value? lower).trans (all lower (by simp)))
    have shorter : rest.length % 2 = 0 := by
      simp only [List.length_cons] at even
      omega
    obtain ⟨others, restRead⟩ := ih shorter fun digit member => all digit (by simp [member])
    exact ⟨_, decode?_cons_cons_eq_some_iff.mpr ⟨high, low, others, upperRead, lowerRead, restRead, rfl⟩⟩

/-- Digits that were read are written again in lower case. -/
theorem encode_of_decode? (decoded : decode? digits = some bytes) :
    encode bytes = digits.map fun digit => (Char.ofUInt8 digit).toLower := by
  fun_induction decode? digits generalizing bytes with
  | case1 =>
    cases decoded
    rfl
  | case2 => cases decoded
  | case3 upper lower rest ih =>
    obtain ⟨high, low, others, upperRead, lowerRead, restRead, rfl⟩ := decode?_cons_cons_eq_some_iff.mp decoded
    obtain ⟨small, writtenUpper⟩ := digitChar_of_value? upperRead
    obtain ⟨smallToo, writtenLower⟩ := digitChar_of_value? lowerRead
    have halves : (16 * high + low) / 16 = high ∧ (16 * high + low) % 16 = low := by omega
    rw [encode, List.flatMap_cons, ← encode, ih restRead, encodeByte, toNat_join small smallToo, halves.1, halves.2,
      writtenUpper, writtenLower]
    rfl

theorem decode?_encode (bytes : Bytes) : decode? ((encode bytes).map Char.toUInt8) = some bytes := by
  induction bytes with
  | nil => rfl
  | cons byte rest ih =>
    have high : byte.toNat / 16 < 16 := by
      have := byte.toNat_lt
      omega
    have low : byte.toNat % 16 < 16 := Nat.mod_lt _ (by decide)
    have joined : byte = .ofNat (16 * (byte.toNat / 16) + byte.toNat % 16) := by
      rw [Nat.div_add_mod, UInt8.ofNat_toNat]
    exact decode?_cons_cons_eq_some_iff.mpr
      ⟨_, _, rest, value?_digitChar high, value?_digitChar low, ih, congrArg (· :: rest) joined⟩

theorem toUInt8_ofUInt8 (byte : UInt8) : (Char.ofUInt8 byte).toUInt8 = byte :=
  UInt8.toUInt8_toUInt32 byte

theorem toNat_lt_of_isDigit (read : isDigit digit = true) : digit.toNat < 128 := by
  simp only [isDigit, UInt8.le_iff_toNat_le, Bool.or_eq_true, Bool.and_eq_true, decide_eq_true_eq] at read
  grind

theorem toNat_lt_of_mem_encode {char : Char} (member : char ∈ encode bytes) : char.toNat < 128 := by
  have all : ∀ value < 16, (Nat.digitChar value).toNat < 128 := by decide
  obtain ⟨byte, -, written⟩ := List.mem_flatMap.mp member
  have size := byte.toNat_lt
  simp only [encodeByte, List.mem_cons, List.not_mem_nil, or_false] at written
  rcases written with rfl | rfl
  · exact all _ (by omega)
  · exact all _ (by omega)

-- A sign is no digit, and two digits stay within the byte.
theorem readByte?_pair {upper lower : UInt8} {high low : Nat} (upperRead : value? upper = some high)
    (lowerRead : value? lower = some low) : readByte? [upper, lower] = some (.ofNat (16 * high + low)) := by
  have unsigned_pair : unsigned [upper, lower] = [upper, lower] := by
    rw [unsigned, if_neg]
    rintro rfl
    cases upperRead
  have small := (digitChar_of_value? upperRead).1
  have smallToo := (digitChar_of_value? lowerRead).1
  have first : appendDigit? 0 upper = some high := by
    simp only [appendDigit?, upperRead, Option.bind_eq_bind, Option.bind_some, Nat.mul_zero, Nat.zero_add,
      if_pos (show high < 256 by omega)]
  have second : appendDigit? high lower = some (16 * high + low) := by
    simp only [appendDigit?, lowerRead, Option.bind_eq_bind, Option.bind_some,
      if_pos (show 16 * high + low < 256 by omega)]
  simp [readByte?, unsigned_pair, first, second]

end BeaconWatch.Hex
