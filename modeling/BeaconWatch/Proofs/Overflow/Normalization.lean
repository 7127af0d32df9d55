import BeaconWatch.Proofs.Overflow.Framing

/-!
Normalizing a buffer. Every byte is reversed on its own, so reading the result in one bit order is reading the buffer in
the other, and it is the same to cut the header off before or after.
-/

set_option autoImplicit false

namespace BeaconWatch

theorem BitOrder.bitsOfByte_opposite (o : BitOrder) (byte : UInt8) :
    o.opposite.bitsOfByte byte = (o.bitsOfByte byte).reverse := by
  cases o <;> simp [opposite, bitsOfByte, exponent, List.range_succ]

namespace Overflow

def reverseByte (byte : UInt8) : UInt8 :=
  BitOrder.lsbFirst.byteOfBits (BitOrder.msbFirst.bitsOfByte byte)

theorem bitsOfByte_reverseByte (o : BitOrder) (byte : UInt8) :
    o.bitsOfByte (reverseByte byte) = o.opposite.bitsOfByte byte := by
  have lsb : BitOrder.lsbFirst.bitsOfByte (reverseByte byte) = BitOrder.msbFirst.bitsOfByte byte := by
    simp [reverseByte, BitOrder.bitsOfByte_byteOfBits]
  cases o with
  | lsbFirst => exact lsb
  | msbFirst =>
    have reversed := BitOrder.lsbFirst.bitsOfByte_opposite (reverseByte byte)
    have back := BitOrder.msbFirst.bitsOfByte_opposite byte
    simp only [BitOrder.opposite, lsb] at reversed back ⊢
    rw [reversed, back]

theorem reverseByte_reverseByte (byte : UInt8) : reverseByte (reverseByte byte) = byte := by
  have swapped := bitsOfByte_reverseByte .msbFirst byte
  simp only [BitOrder.opposite] at swapped
  rw [reverseByte, swapped, BitOrder.byteOfBits_bitsOfByte]

theorem toBits_map_reverseByte (o : BitOrder) (raw : Bytes) :
    toBits o (raw.map reverseByte) = toBits o.opposite raw := by
  simp only [toBits, List.flatMap_map, bitsOfByte_reverseByte]

theorem normalize_eq_map (raw : Bytes) : normalize raw = raw.map reverseByte := by
  have swapped := toBits_map_reverseByte .lsbFirst raw
  simp only [BitOrder.opposite] at swapped
  rw [normalize, ← swapped, ofBits_toBits]

theorem toBits_normalize_opposite (o : BitOrder) (raw : Bytes) :
    toBits o (normalize raw) = toBits o.opposite raw := by
  simp only [normalize_eq_map, toBits_map_reverseByte]

example : normalize [0x01, 0xf0, 0xaa] = [0x80, 0x0f, 0x55] := by
  decide

theorem cutAt?_normalize {raw : Bytes} (headed : headerLength ≤ raw.length) :
    cutAt? (normalize raw) headerLength = some (normalize (raw.drop headerLength)) := by
  simp [cutAt?, headed, normalize_eq_map, List.map_drop]

/-- Normalizing swaps the two bit orders, byte by byte. Past the header the receiver has the bits of the buffer, each
byte read from its most significant one. -/
theorem normalize_swaps_orders (raw : Bytes) :
    (∀ o : BitOrder, toBits o (normalize raw) = toBits o.opposite raw) ∧
    (normalize raw).length = raw.length ∧
    normalize (normalize raw) = raw ∧
    (∀ suffix, normalize (raw ++ suffix) = normalize raw ++ normalize suffix) ∧
    (8 ≤ raw.length → ∃ body, cutAt? (normalize raw) headerLength = some body ∧
      toBits .lsbFirst body = toBits .msbFirst (raw.drop 8)) ∧
    ∀ n, n ≤ 2 ^ 60 - 9 → requiredLength n ≤ raw.length →
      inspect? n raw = some (.ok (.ofData
        (Hamming.decode ((toBits .msbFirst (raw.drop 8)).take (codewordBits n))).bits)) := by
  have twice : reverseByte ∘ reverseByte = id := funext reverseByte_reverseByte
  refine ⟨fun o => toBits_normalize_opposite o raw, length_normalize raw, ?_, ?_, ?_, ?_⟩
  next => simp [normalize_eq_map, twice]
  next =>
    intro suffix
    simp only [normalize_eq_map, List.map_append]
  next =>
    intro headed
    exact ⟨_, cutAt?_normalize headed, toBits_normalize_opposite .lsbFirst _⟩
  next =>
    intro n small long
    rw [inspect?_eq small, inspect_of_long long]
    rfl

theorem normalize_swaps_orders_captured :
    8 ≤ captured.length ∧ 5 ≤ 2 ^ 60 - 9 ∧ requiredLength 5 ≤ captured.length ∧
      (∃ body, cutAt? (normalize captured) headerLength = some body ∧
        toBits .lsbFirst body = toBits .msbFirst (captured.drop 8)) ∧
      inspect? 5 captured = some (.ok (.ofData
        (Hamming.decode ((toBits .msbFirst (captured.drop 8)).take (codewordBits 5))).bits)) := by
  have headed : 8 ≤ captured.length := by decide
  have long : requiredLength 5 ≤ captured.length := by decide
  obtain ⟨-, -, -, -, skipped, received⟩ := normalize_swaps_orders captured
  exact ⟨headed, by decide, long, skipped headed, received 5 (by decide) long⟩

end Overflow

end BeaconWatch
