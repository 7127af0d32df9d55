import BeaconWatch.Overflow.Extractor

/-!
Identities and their payloads: interpreting a payload and writing an identity's payload are inverse
to each other. The power, which a byte carries as an offset, stays inside its word both ways.
-/

set_option autoImplicit false

namespace BeaconWatch.Overflow

theorem toInt_powerOfByte (byte : UInt8) : (powerOfByte byte).toInt = byte.toNat - 256 := by
  have bound := byte.toNat_lt
  exact Int16.toInt_ofInt_of_le (by omega) (by omega)

theorem powerOfByte_mem (byte : UInt8) : -256 ≤ (powerOfByte byte).toInt ∧ (powerOfByte byte).toInt ≤ -1 := by
  have bound := byte.toNat_lt
  rw [toInt_powerOfByte]
  omega

theorem powerOfByte_ofNat {power : Int16} (low : -256 ≤ power.toInt) (high : power.toInt ≤ -1) :
    powerOfByte (.ofNat (power.toInt + 256).toNat) = power := by
  apply Int16.toInt_inj.mp
  rw [toInt_powerOfByte, UInt8.toNat_ofNat']
  omega

theorem ofNat_powerOfByte (byte : UInt8) : UInt8.ofNat ((powerOfByte byte).toInt + 256).toNat = byte := by
  have bound := byte.toNat_lt
  apply UInt8.toNat_inj.mp
  rw [toInt_powerOfByte, UInt8.toNat_ofNat']
  omega

theorem identityPayload_eq_ok_iff (identity : BeaconIdentity) (payload : Bytes) :
    identityPayload identity = .ok payload ↔ interpret payload = some identity := by
  constructor
  · intro written
    simp only [identityPayload] at written
    split at written
    case isTrue range =>
      cases written
      simp [BigEndian.split, interpret, powerOfByte_ofNat range.1 range.2]
    case isFalse => cases written
  · intro read
    match payload, read with
    | [majorHigh, majorLow, minorHigh, minorLow, power], read =>
      cases read
      simp [identityPayload, BigEndian.split, powerOfByte_mem, ofNat_powerOfByte]

theorem interpret_mem {payload : Bytes} {identity : BeaconIdentity} (read : interpret payload = some identity) :
    -256 ≤ identity.txPower.toInt ∧ identity.txPower.toInt ≤ -1 := by
  match payload, read with
  | [_, _, _, _, power], read =>
    cases read
    exact powerOfByte_mem power

theorem isOk_identityPayload_iff (identity : BeaconIdentity) : (identityPayload identity).isOk = true ↔
    -256 ≤ identity.txPower.toInt ∧ identity.txPower.toInt ≤ -1 := by
  rw [identityPayload]
  split
  case isTrue range => simpa [Except.isOk, Except.toBool] using range
  case isFalse range => simpa [Except.isOk, Except.toBool] using range

theorem isSome_interpret_iff (payload : Bytes) : (interpret payload).isSome = true ↔ payload.length = 5 := by
  match payload with
  | [_, _, _, _, _] => simp [interpret]
  | [] | [_] | [_, _] | [_, _, _] | [_, _, _, _] => simp [interpret]
  | _ :: _ :: _ :: _ :: _ :: _ :: _ => simp [interpret]

theorem length_of_interpret {payload : Bytes} {identity : BeaconIdentity}
    (read : interpret payload = some identity) : payload.length = 5 := by
  rw [← isSome_interpret_iff, read, Option.isSome_some]

/-! In words of 16 bits. -/

theorem exactly?_of_eq {α : Type} {value : α → Int} {result : α} {exact : Int} (same : value result = exact) :
    exactly? value result exact = some result :=
  if_pos same

theorem toInt_sub_of_range {a b : Int16} (low : -2 ^ 15 ≤ a.toInt - b.toInt) (high : a.toInt - b.toInt < 2 ^ 15) :
    (a - b).toInt = a.toInt - b.toInt := by
  rw [Int16.toInt_sub, Int.bmod_eq_of_le (by omega) (by omega)]

theorem toInt_add_of_range {a b : Int16} (low : -2 ^ 15 ≤ a.toInt + b.toInt) (high : a.toInt + b.toInt < 2 ^ 15) :
    (a + b).toInt = a.toInt + b.toInt := by
  rw [Int16.toInt_add, Int.bmod_eq_of_le (by omega) (by omega)]

theorem toInt_ofByte (byte : UInt8) : byte.toUInt16.toInt16.toInt = byte.toNat := by
  have bound := byte.toNat_lt
  calc byte.toUInt16.toInt16.toInt = (byte.toUInt16.toNat : Int).bmod (2 ^ 16) := BitVec.toInt_eq_toNat_bmod _
    _ = (byte.toNat : Int).bmod (2 ^ 16) := by rw [UInt8.toNat_toUInt16]
    _ = byte.toNat := Int.bmod_eq_of_le (by omega) (by omega)

theorem toNat_lowByte {word : Int16} (low : 0 ≤ word.toInt) (high : word.toInt < 2 ^ 8) :
    word.toUInt16.toUInt8.toNat = word.toInt := by
  have same := Int16.toNat_toUInt16_of_le (Int16.le_iff_toInt_le.mpr low)
  rw [UInt16.toNat_toUInt8, same, Int16.toNatClampNeg]
  omega

theorem powerOfByte?_eq (byte : UInt8) : powerOfByte? byte = some (powerOfByte byte) := by
  have bound := byte.toNat_lt
  have word := toInt_ofByte byte
  have offset : (256 : Int16).toInt = 256 := rfl
  have power : (byte.toUInt16.toInt16 - 256).toInt = byte.toUInt16.toInt16.toInt - 256 :=
    toInt_sub_of_range (by omega) (by omega)
  have same : byte.toUInt16.toInt16 - 256 = powerOfByte byte := by
    apply Int16.toInt_inj.mp
    rw [power, word, toInt_powerOfByte]
  rw [powerOfByte?, exactly?_of_eq word, Option.bind_eq_bind, Option.bind_some, exactly?_of_eq power, same]

theorem byteOfPower?_eq {power : Int16} (low : -256 ≤ power.toInt) (high : power.toInt ≤ -1) :
    byteOfPower? power = some (.ofNat (power.toInt + 256).toNat) := by
  have offset : (256 : Int16).toInt = 256 := rfl
  have sum : (power + 256).toInt = power.toInt + 256 := toInt_add_of_range (by omega) (by omega)
  have byte : (power + 256).toUInt16.toUInt8.toNat = (power + 256).toInt := toNat_lowByte (by omega) (by omega)
  have same : (power + 256).toUInt16.toUInt8 = .ofNat (power.toInt + 256).toNat := by
    apply UInt8.toNat_inj.mp
    rw [UInt8.toNat_ofNat']
    omega
  rw [byteOfPower?, exactly?_of_eq sum, Option.bind_eq_bind, Option.bind_some, ← same]
  exact exactly?_of_eq byte

theorem interpretInWords?_eq (payload : Bytes) : interpretInWords? payload = some (interpret payload) := by
  match payload with
  | [_, _, _, _, power] => simp [interpretInWords?, interpret, powerOfByte?_eq]
  | [] | [_] | [_, _] | [_, _, _] | [_, _, _, _] => rfl
  | _ :: _ :: _ :: _ :: _ :: _ :: _ => rfl

theorem identityPayload?_eq (identity : BeaconIdentity) :
    identityPayload? identity = some (identityPayload identity) := by
  rw [identityPayload?, identityPayload]
  split
  case isTrue range => simp [byteOfPower?_eq range.1 range.2]
  case isFalse => rfl

/-- An identity has a payload just when its power is from -256 to -1 dBm, bytes are an identity's payload just when there
are five of them, and each is read back from the other. No word of 16 bits overflows on the way, and no cast loses a
value. -/
theorem payloads_identify (identity : BeaconIdentity) (payload : Bytes) :
    identityPayload? identity = some (identityPayload identity) ∧
      interpretInWords? payload = some (interpret payload) ∧
      ((identityPayload identity).isOk = true ↔ -256 ≤ identity.txPower.toInt ∧ identity.txPower.toInt ≤ -1) ∧
      ((interpret payload).isSome = true ↔ payload.length = 5) ∧
      (identityPayload identity = .ok payload ↔ interpret payload = some identity) :=
  ⟨identityPayload?_eq identity, interpretInWords?_eq payload, isOk_identityPayload_iff identity,
    isSome_interpret_iff payload, identityPayload_eq_ok_iff identity payload⟩

end BeaconWatch.Overflow
