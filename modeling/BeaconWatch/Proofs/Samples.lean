import BeaconWatch.Proofs.Bits
import BeaconWatch.Samples

/-!
Shifting and masking give the same bits and bytes as reading the binary digits, so that packing and unpacking undo each
other. The zeros that fill the last byte follow its bits under both orders, and of a sample only the low bit is seen.
-/

set_option autoImplicit false

namespace BeaconWatch

@[simp] theorem toNat_toUInt8 (bit : Bool) : bit.toUInt8.toNat = bit.toNat := by
  cases bit <;> rfl

theorem toUInt8_testBit_zero (sample : UInt8) : (sample.toNat.testBit 0).toUInt8 = sample &&& 1 := by
  apply UInt8.toNat_inj.mp
  simp only [toNat_toUInt8, Nat.toNat_testBit, UInt8.toNat_and]
  simp [Nat.and_one_is_mod]

theorem samplesOf_lowBits (samples : List UInt8) : samplesOf (lowBits samples) = samples.map (· &&& 1) := by
  simp only [samplesOf, lowBits, List.map_map, Function.comp_def, toUInt8_testBit_zero]

theorem samplesOf_append (a b : Bits) : samplesOf (a ++ b) = samplesOf a ++ samplesOf b :=
  List.map_append

theorem samplesOf_replicate (count : Nat) : samplesOf (List.replicate count false) = List.replicate count 0 :=
  List.map_replicate

namespace BitOrder

theorem toNat_shift (o : BitOrder) {index : Nat} (bound : index < 8) : (o.shift index).toNat = o.exponent index := by
  have inside := o.exponent_lt bound
  simp only [shift, UInt8.toNat_ofNat']
  omega

theorem readSample_eq (o : BitOrder) (byte : UInt8) {index : Nat} (bound : index < 8) :
    o.readSample byte index = (byte.toNat.testBit (o.exponent index)).toUInt8 := by
  have inside := o.exponent_lt bound
  apply UInt8.toNat_inj.mp
  simp only [readSample, toNat_toUInt8, Nat.toNat_testBit, UInt8.toNat_and, UInt8.toNat_shiftRight, toNat_shift o bound]
  simp [Nat.mod_eq_of_lt inside, Nat.and_one_is_mod, Nat.shiftRight_eq_div_pow]

theorem samplesOfByte_eq (o : BitOrder) (byte : UInt8) : o.samplesOfByte byte = samplesOf (o.bitsOfByte byte) := by
  simp only [samplesOfByte, samplesOf, bitsOfByte, List.map_map]
  apply List.map_congr_left
  intro index member
  exact o.readSample_eq byte (List.mem_range.mp member)

-- No later bit has the same exponent, so the sum has no carry.
theorem valueFrom_cons (o : BitOrder) (start : Nat) (bit : Bool) (rest : Bits) (fits : start + rest.length < 8) :
    o.valueFrom start (bit :: rest) = (if bit then 2 ^ o.exponent start else 0) ||| o.valueFrom (start + 1) rest := by
  have clear : (o.valueFrom (start + 1) rest).testBit (o.exponent start) = false := by
    have past : ¬ start + 1 ≤ start := by omega
    simp [testBit_valueFrom o (start + 1) rest (by omega) (show start < 8 by omega), past]
  cases bit with
  | false => simp [valueFrom]
  | true =>
    apply Nat.eq_of_testBit_eq
    intro position
    simp [valueFrom, testBit_two_pow_add _ _ _ clear, Nat.testBit_two_pow]

theorem toNat_writeSample (o : BitOrder) (byte : UInt8) {index : Nat} (bound : index < 8) (sample : UInt8) :
    (o.writeSample byte index sample).toNat =
      byte.toNat ||| if sample.toNat.testBit 0 then 2 ^ o.exponent index else 0 := by
  have inside := o.exponent_lt bound
  have power : 2 ^ o.exponent index < 256 := Nat.pow_lt_pow_right (show 1 < 2 by omega) inside
  have low : sample.toNat % 2 = 0 ∨ sample.toNat % 2 = 1 := Nat.mod_two_eq_zero_or_one _
  rcases low with low | low <;>
    simp [writeSample, toNat_shift o bound, Nat.mod_eq_of_lt inside, Nat.and_one_is_mod, low, Nat.testBit_zero,
      Nat.shiftLeft_eq, Nat.mod_eq_of_lt power]

theorem toNat_writeFrom (o : BitOrder) (start : Nat) (byte : UInt8) (samples : List UInt8)
    (fits : start + samples.length ≤ 8) :
    (o.writeFrom start byte samples).toNat = byte.toNat ||| o.valueFrom start (lowBits samples) := by
  induction samples generalizing start byte with
  | nil => simp [writeFrom, valueFrom, lowBits]
  | cons sample rest ih =>
    simp only [List.length_cons] at fits
    have later := ih (start + 1) (o.writeSample byte start sample) (by omega)
    have written := o.toNat_writeSample byte (show start < 8 by omega) sample
    have bits := o.valueFrom_cons start (sample.toNat.testBit 0) (lowBits rest) (by simp; omega)
    change _ = byte.toNat ||| o.valueFrom start (sample.toNat.testBit 0 :: lowBits rest)
    simp only [writeFrom, later, written, bits, Nat.or_assoc]

theorem writeFrom_eq (o : BitOrder) (group : List UInt8) (fits : group.length ≤ 8) :
    o.writeFrom 0 0 group = o.byteOfBits (lowBits group) := by
  have written := o.toNat_writeFrom 0 0 group (by omega)
  have byte := (o.writeFrom 0 0 group).toNat_lt
  apply UInt8.toNat_inj.mp
  simp_all [byteOfBits, Nat.mod_eq_of_lt]

end BitOrder

theorem toSamples_eq (o : BitOrder) (bytes : Bytes) : toSamples o bytes = samplesOf (toBits o bytes) := by
  have pointwise : o.samplesOfByte = fun byte => samplesOf (o.bitsOfByte byte) := funext o.samplesOfByte_eq
  simp only [toSamples, toBits, pointwise, samplesOf, List.map_flatMap]

theorem ofBits_of_ne_nil (o : BitOrder) {bits : Bits} (nonempty : bits ≠ []) :
    ofBits o bits = o.byteOfBits (bits.take 8) :: ofBits o (bits.drop 8) := by
  have positive := List.length_pos_iff.mpr nonempty
  have count : (bits.length + 7) / 8 = (bits.length - 8 + 7) / 8 + 1 := by omega
  simp [ofBits, count, packBytes]

theorem ofSamples_eq (o : BitOrder) (samples : List UInt8) : ofSamples o samples = ofBits o (lowBits samples) := by
  induction samples using ofSamples.induct with
  | case1 => simp [ofSamples, lowBits, ofBits, packBytes]
  | case2 sample rest ih =>
    have nonempty : lowBits (sample :: rest) ≠ [] := by simp [lowBits]
    have group := o.writeFrom_eq ((sample :: rest).take 8) (List.length_take_le ..)
    simp only [ofSamples, ofBits_of_ne_nil o nonempty, group, ih]
    simp [lowBits, List.map_take, List.map_drop]

/-- Bytes come back from their samples. Samples come back as their low bits, and zeros fill up the last eight. -/
theorem samples_and_bytes (o : BitOrder) :
    (∀ bytes, ofSamples o (toSamples o bytes) = bytes) ∧
    (∀ samples, (ofSamples o samples).length = (samples.length + 7) / 8) ∧
    (∀ samples, toSamples o (ofSamples o samples) =
      samples.map (· &&& 1) ++ List.replicate (8 * ((samples.length + 7) / 8) - samples.length) 0) ∧
    (∀ bytes, toSamples o bytes = samplesOf (toBits o bytes)) ∧
    ∀ samples, ofSamples o samples = ofBits o (lowBits samples) := by
  refine ⟨?_, ?_, ?_, toSamples_eq o, ofSamples_eq o⟩
  next =>
    intro bytes
    simp only [ofSamples_eq, toSamples_eq, lowBits_samplesOf, ofBits_toBits]
  next =>
    intro samples
    simp only [ofSamples_eq, length_ofBits, length_lowBits]
  next =>
    intro samples
    have filled := toBits_ofBits o (lowBits samples)
    rw [ofSamples_eq, toSamples_eq, filled, samplesOf_append, samplesOf_lowBits, samplesOf_replicate, length_lowBits]

-- Nine samples, whose ninth bit is at the one end of the second byte or at the other.
example : toSamples .msbFirst (ofSamples .msbFirst [1, 3, 255, 1, 1, 1, 1, 1, 5, 2]) =
    [1, 1, 1, 1, 1, 1, 1, 1, 1, 0, 0, 0, 0, 0, 0, 0] := by
  decide +kernel

end BeaconWatch
