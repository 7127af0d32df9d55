import BeaconWatch.Proofs.Hamming.Transmission
import BeaconWatch.Proofs.Overflow.Framing

/-!
One damaged bit in a sent buffer. Wherever it is, the payload is extracted as before, with one
exception: a damaged check bit makes the decoding fail.
-/

set_option autoImplicit false

namespace BeaconWatch

-- Flips one bit of a buffer, bits counted from the first byte in the given order.
def flipBit (o : BitOrder) (bytes : Bytes) (index : Nat) : Bytes :=
  bytes.modify (index / 8) fun byte => byte ^^^ .ofNat (2 ^ o.exponent (index % 8))

@[simp] theorem length_flipBit (o : BitOrder) (bytes : Bytes) (index : Nat) :
    (flipBit o bytes index).length = bytes.length := by
  simp [flipBit]

theorem BitOrder.bitsOfByte_flip (o : BitOrder) (byte : UInt8) {index : Nat} (bound : index < 8) :
    o.bitsOfByte (byte ^^^ .ofNat (2 ^ o.exponent index)) = (o.bitsOfByte byte).modify index not := by
  have inside := o.exponent_lt bound
  have weight : (UInt8.ofNat (2 ^ o.exponent index)).toNat = 2 ^ o.exponent index := by
    have small : 2 ^ o.exponent index < 2 ^ 8 := Nat.pow_lt_pow_right (by omega) inside
    rw [UInt8.toNat_ofNat', Nat.mod_eq_of_lt small]
  apply List.ext_getElem?
  intro other
  rw [List.getElem?_modify, getElem?_bitsOfByte, getElem?_bitsOfByte]
  by_cases below : other < 8
  · have place := o.exponent_inj bound below
    rw [if_pos below, if_pos below, UInt8.toNat_xor, Nat.testBit_xor, weight, Nat.testBit_two_pow]
    by_cases same : index = other <;> simp [place, same]
  · simp [below]

theorem toBits_flipBit (o : BitOrder) (bytes : Bytes) (index : Nat) :
    toBits o (flipBit o bytes index) = (toBits o bytes).modify index not := by
  induction bytes generalizing index with
  | nil => simp [flipBit]
  | cons byte rest ih =>
    rw [toBits_cons, modify_append, BitOrder.length_bitsOfByte]
    by_cases first : index < 8
    · have here : index / 8 = 0 := by omega
      have place : index % 8 = index := by omega
      rw [if_pos first, flipBit, here, place, List.modify_zero_cons, toBits_cons, o.bitsOfByte_flip _ first]
    · have next : index / 8 = (index - 8) / 8 + 1 := by omega
      have place : index % 8 = (index - 8) % 8 := by omega
      rw [if_neg first, ← ih, flipBit, next, place, List.modify_succ_cons, toBits_cons, flipBit]

namespace Overflow

open BeaconWatch.Hamming

theorem wireBits_flipBit (n : Nat) (raw : Bytes) (index : Nat) :
    wireBits n (flipBit .msbFirst raw index) =
      if index < 8 * headerLength then wireBits n raw
      else (wireBits n raw).modify (index - 8 * headerLength) not := by
  rw [wireBits, wireBits, toBits_drop, toBits_flipBit, toBits_drop]
  split
  case isTrue header => rw [List.drop_modify_of_lt _ _ _ _ header]
  case isFalse body => rw [List.drop_modify_of_ge _ _ _ _ (Nat.le_of_not_lt body), List.take_modify]

theorem near_flip (data : Bits) {index : Nat} (core : index ≠ coreLength data.length) :
    Near ((encode data).modify index not) (encode data) := by
  rw [encode, modify_append, length_encodeCore]
  split
  case isTrue inside =>
    refine ⟨by simp, by simp, ?_⟩
    have h := mismatches_flip (encodeCore data) (index + 1)
    rw [mismatches_comm] at h
    simpa [Hamming.flip] using h
  case isFalse outside =>
    have past : [checkBit (encodeCore data)].length ≤ index - coreLength data.length := by
      rw [List.length_singleton]
      omega
    rw [List.modify_eq_self past]
    exact Near.refl _

theorem decode_flip_check (data : Bits) :
    (decode ((encode data).modify (coreLength data.length) not)).bits = [] :=
  congrArg Outcome.bits (decode_encode_flip_check data)

section

variable {n : Nat} {header payload : Bytes}

-- A sent buffer with one bit damaged, behind a header and before a suffix of its receiver.
def damaged (header payload suffix : Bytes) (index : Nat) : Bytes :=
  flipBit .msbFirst (rewrap header (frame blankHeader (sentinel :: payload)) suffix) index

theorem requiredLength_le_damaged (headed : header.length = headerLength) (size : payload.length = n)
    (suffix : Bytes) (index : Nat) : requiredLength n ≤ (damaged header payload suffix index).length := by
  rw [damaged, length_flipBit]
  exact requiredLength_le_rewrap headed (length_sentinel_cons size) suffix

theorem wireBits_damaged (headed : header.length = headerLength) (size : payload.length = n)
    (suffix : Bytes) (index : Nat) :
    wireBits n (damaged header payload suffix index) =
      if index < 8 * headerLength then encode (toBits .lsbFirst (sentinel :: payload))
      else (encode (toBits .lsbFirst (sentinel :: payload))).modify (index - 8 * headerLength) not := by
  rw [damaged, wireBits_flipBit, wireBits_rewrap headed (length_sentinel_cons size)]

theorem inspect_damaged_check (headed : header.length = headerLength) (size : payload.length = n)
    (suffix : Bytes) :
    inspect n (damaged header payload suffix (8 * headerLength + windowBits n)) = .ok .decodeFailure := by
  have data := length_toBits_block .lsbFirst (length_sentinel_cons size)
  have place : 8 * headerLength + windowBits n - 8 * headerLength =
      coreLength (toBits .lsbFirst (sentinel :: payload)).length := by
    rw [data, windowBits]
    omega
  have body : ¬ 8 * headerLength + windowBits n < 8 * headerLength := by omega
  rw [inspect_of_long (requiredLength_le_damaged headed size suffix _), wireBits_damaged headed size, if_neg body,
    place, decode_flip_check, Extraction.ofData_nil]

theorem inspect_damaged (headed : header.length = headerLength) (size : payload.length = n) (suffix : Bytes)
    {index : Nat} (other : index ≠ 8 * headerLength + windowBits n) :
    inspect n (damaged header payload suffix index) = .ok (.payload payload) := by
  have data := length_toBits_block .lsbFirst (length_sentinel_cons size)
  refine inspect_eq_payload_iff.mpr ⟨requiredLength_le_damaged headed size suffix index, size, ?_⟩
  rw [wireBits_damaged headed size]
  split
  case isTrue header => exact Near.refl _
  case isFalse body =>
    apply near_flip
    rw [data]
    change _ ≠ windowBits n
    omega

end

/-- The damage law. Bits are counted from the first byte, each byte from its most significant bit; the
check bit follows the window, which follows the header. -/
theorem inspect_flipBit {n : Nat} (small : n ≤ 2 ^ 60 - 9) {payload : Bytes} (size : payload.length = n) :
    ∃ sent, encodePayload? n payload = some (.ok sent) ∧
      ∀ header suffix : Bytes, header.length = headerLength → ∀ index,
        inspect? n (flipBit .msbFirst (rewrap header sent suffix) index) =
          some (.ok (if index = 8 * headerLength + windowBits n then .decodeFailure else .payload payload)) := by
  refine ⟨frame blankHeader (sentinel :: payload), ?_, ?_⟩
  · rw [encodePayload?_eq small, encodePayload, if_pos size]
  · intro header suffix headed index
    rw [inspect?_eq small, ← damaged]
    by_cases check : index = 8 * headerLength + windowBits n
    · rw [if_pos check, check, inspect_damaged_check headed size]
    · rw [if_neg check, inspect_damaged headed size suffix check]

theorem inspect_flipBit_captured :
    5 ≤ 2 ^ 60 - 9 ∧ capturedPayload.length = 5 ∧
      inspect? 5 (flipBit .msbFirst captured 64) = some (.ok (.payload capturedPayload)) ∧
        inspect? 5 (flipBit .msbFirst captured 118) = some (.ok .decodeFailure) := by
  have size : capturedPayload.length = 5 := rfl
  refine ⟨by decide, size, ?_⟩
  obtain ⟨sent, encoded, received⟩ := inspect_flipBit (by decide) size
  rw [encodePayload?_captured] at encoded
  cases encoded
  have damaged := received (captured.take headerLength) [0x00] rfl
  rw [rewrap_captured] at damaged
  constructor
  · rw [damaged, if_neg (by decide)]
  · rw [damaged, if_pos (by decide)]

end Overflow

end BeaconWatch
