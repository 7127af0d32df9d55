import BeaconWatch.Bits

/-!
Bytes and their bits in either order: packing is undone by unpacking, up to the zero bits that fill the
last byte.
-/

set_option autoImplicit false

namespace BeaconWatch

theorem testBit_two_pow_add (exponent value index : Nat) (clear : value.testBit exponent = false) :
    (2 ^ exponent + value).testBit index = (decide (exponent = index) || value.testBit index) := by
  induction exponent generalizing value index with
  | zero =>
    have even : value % 2 = 0 := by simpa using clear
    cases index with
    | zero => simp [Nat.testBit_zero]; omega
    | succ index =>
      have half : (2 ^ 0 + value) / 2 = value / 2 := by omega
      rw [Nat.testBit_succ, half, Nat.testBit_succ]
      simp
  | succ exponent ih =>
    cases index with
    | zero =>
      have parity : (2 ^ (exponent + 1) + value) % 2 = value % 2 := by omega
      simp [Nat.testBit_zero, parity]
    | succ index =>
      have half : (2 ^ (exponent + 1) + value) / 2 = 2 ^ exponent + value / 2 := by omega
      rw [Nat.testBit_succ] at clear
      simp [Nat.testBit_succ, half, ih _ _ clear]

namespace BitOrder

theorem exponent_lt (o : BitOrder) {index : Nat} (bound : index < 8) : o.exponent index < 8 := by
  cases o <;> simp [exponent] <;> omega

theorem exponent_exponent (o : BitOrder) {index : Nat} (bound : index < 8) :
    o.exponent (o.exponent index) = index := by
  cases o with
  | msbFirst =>
    simp only [exponent]
    omega
  | lsbFirst => rfl

theorem exponent_inj (o : BitOrder) {a b : Nat} (ha : a < 8) (hb : b < 8) :
    o.exponent a = o.exponent b ↔ a = b := by
  cases o with
  | msbFirst =>
    simp only [exponent]
    omega
  | lsbFirst => rfl

theorem testBit_valueFrom (o : BitOrder) (start : Nat) (bits : Bits) (fits : start + bits.length ≤ 8)
    {index : Nat} (bound : index < 8) :
    (o.valueFrom start bits).testBit (o.exponent index) =
      (decide (start ≤ index) && bits[index - start]?.getD false) := by
  induction bits generalizing start index with
  | nil => simp [valueFrom]
  | cons bit rest ih =>
    have room : start + 1 + rest.length ≤ 8 := by simp only [List.length_cons] at fits; omega
    have later {index : Nat} (bound : index < 8) := ih (start + 1) room bound
    have clear : (o.valueFrom (start + 1) rest).testBit (o.exponent start) = false := by
      have past : ¬ start + 1 ≤ start := by omega
      simp [later (show start < 8 by omega), past]
    by_cases same : index = start
    · subst index
      cases bit <;> simp [valueFrom, testBit_two_pow_add, clear]
    · have apart : o.exponent start ≠ o.exponent index := by
        rw [Ne, exponent_inj o (by omega) bound]
        omega
      have order : start ≤ index ↔ start + 1 ≤ index := by omega
      have tail : start + 1 ≤ index → (bit :: rest)[index - start]? = rest[index - (start + 1)]? := by
        intro after
        have next : index - start = index - (start + 1) + 1 := by omega
        rw [next, List.getElem?_cons_succ]
      simp only [valueFrom, order]
      by_cases after : start + 1 ≤ index <;>
        cases bit <;> simp [testBit_two_pow_add, clear, later bound, apart, after, tail]

theorem testBit_byteOfBits (o : BitOrder) (group : Bits) (fits : group.length ≤ 8)
    {index : Nat} (bound : index < 8) :
    (o.byteOfBits group).toNat.testBit (o.exponent index) = group[index]?.getD false := by
  have inside := o.exponent_lt bound
  simp only [byteOfBits, UInt8.toNat_ofNat', Nat.testBit_mod_two_pow, inside, decide_true, Bool.true_and]
  simp [testBit_valueFrom o 0 group (by omega) bound]

theorem getElem?_bitsOfByte (o : BitOrder) (byte : UInt8) (index : Nat) :
    (o.bitsOfByte byte)[index]? =
      if index < 8 then some (byte.toNat.testBit (o.exponent index)) else none := by
  by_cases bound : index < 8 <;> simp [bitsOfByte, bound]

theorem bitsOfByte_byteOfBits (o : BitOrder) (group : Bits) (fits : group.length ≤ 8) :
    o.bitsOfByte (o.byteOfBits group) = group ++ List.replicate (8 - group.length) false := by
  apply List.ext_getElem?
  intro index
  rw [getElem?_bitsOfByte]
  by_cases bound : index < 8
  · rw [if_pos bound, testBit_byteOfBits o group fits bound]
    by_cases inside : index < group.length
    · simp [List.getElem?_append_left, inside]
    · have room : index - group.length < 8 - group.length := by omega
      have past : group.length ≤ index := by omega
      simp [List.getElem?_append_right past, List.getElem?_eq_none past, room]
  · simp [bound]; omega

theorem byteOfBits_bitsOfByte (o : BitOrder) (byte : UInt8) :
    o.byteOfBits (o.bitsOfByte byte) = byte := by
  apply UInt8.toNat_inj.mp
  apply Nat.eq_of_testBit_eq
  intro position
  by_cases bound : position < 8
  · have inside := o.exponent_lt bound
    have h := testBit_byteOfBits o (o.bitsOfByte byte) (by simp) inside
    simpa [exponent_exponent o bound, bitsOfByte, inside] using h
  · have large : 2 ^ 8 ≤ 2 ^ position := Nat.pow_le_pow_right (by omega) (by omega)
    have low (other : UInt8) : other.toNat < 2 ^ position := Nat.lt_of_lt_of_le other.toNat_lt large
    rw [Nat.testBit_lt_two_pow (low _), Nat.testBit_lt_two_pow (low _)]

end BitOrder

theorem toBits_packBytes (o : BitOrder) (count : Nat) (bits : Bits) (fits : bits.length ≤ 8 * count) :
    toBits o (packBytes o count bits) = bits ++ List.replicate (8 * count - bits.length) false := by
  induction count generalizing bits with
  | zero => simp_all [packBytes]
  | succ count ih =>
    have group : (bits.take 8).length ≤ 8 := List.length_take_le ..
    have rest : (bits.drop 8).length ≤ 8 * count := by
      rw [List.length_drop]
      omega
    rw [packBytes, toBits_cons, BitOrder.bitsOfByte_byteOfBits o _ group, ih _ rest]
    by_cases full : 8 ≤ bits.length
    · have pad : 8 * (count + 1) - bits.length = 8 * count - (bits.length - 8) := by omega
      simp [full, pad]
      rw [← List.append_assoc, List.take_append_drop]
    · have small : bits.length ≤ 8 := by omega
      simp [List.take_of_length_le small, List.drop_eq_nil_of_le small]
      omega

theorem toBits_ofBits (o : BitOrder) (bits : Bits) :
    toBits o (ofBits o bits) =
      bits ++ List.replicate (8 * ((bits.length + 7) / 8) - bits.length) false :=
  toBits_packBytes o _ bits (by omega)

theorem toBits_ofBits_of_dvd (o : BitOrder) (bits : Bits) {count : Nat} (whole : bits.length = 8 * count) :
    toBits o (ofBits o bits) = bits := by
  have none : 8 * ((bits.length + 7) / 8) - bits.length = 0 := by omega
  simp [toBits_ofBits, none]

theorem packBytes_toBits (o : BitOrder) (bytes : Bytes) :
    packBytes o bytes.length (toBits o bytes) = bytes := by
  induction bytes with
  | nil => rfl
  | cons byte rest ih =>
    have head : (o.bitsOfByte byte ++ toBits o rest).take 8 = o.bitsOfByte byte :=
      List.take_left' (by simp)
    have tail : (o.bitsOfByte byte ++ toBits o rest).drop 8 = toBits o rest :=
      List.drop_left' (by simp)
    simp only [List.length_cons, packBytes, toBits_cons, head, tail, ih, BitOrder.byteOfBits_bitsOfByte]

theorem ofBits_toBits (o : BitOrder) (bytes : Bytes) : ofBits o (toBits o bytes) = bytes := by
  have count : (8 * bytes.length + 7) / 8 = bytes.length := by omega
  simp [ofBits, count, packBytes_toBits]

theorem toBits_drop (o : BitOrder) (bytes : Bytes) (count : Nat) :
    toBits o (bytes.drop count) = (toBits o bytes).drop (8 * count) := by
  induction count generalizing bytes with
  | zero => simp
  | succ count ih =>
    cases bytes with
    | nil => simp
    | cons byte rest =>
      have skip : 8 * (count + 1) = (o.bitsOfByte byte).length + 8 * count := by simp; omega
      simp [ih, skip, ← List.drop_drop]

@[simp] theorem lowBits_samplesOf (bits : Bits) : lowBits (samplesOf bits) = bits := by
  have low (bit : Bool) : bit.toUInt8.toNat.testBit 0 = bit := by cases bit <;> rfl
  simp only [lowBits, samplesOf, List.map_map, Function.comp_def, low, List.map_id']

theorem eq_zero_or_one_of_mem_samplesOf {bits : Bits} {sample : UInt8} (member : sample ∈ samplesOf bits) :
    sample = 0 ∨ sample = 1 := by
  obtain ⟨bit, -, rfl⟩ := List.mem_map.mp member
  cases bit
  · exact .inl rfl
  · exact .inr rfl

theorem modify_append (a b : Bits) (index : Nat) :
    (a ++ b).modify index not =
      if index < a.length then a.modify index not ++ b else a ++ b.modify (index - a.length) not := by
  induction a generalizing index with
  | nil => simp
  | cons bit rest ih =>
    cases index with
    | zero => simp
    | succ index =>
      simp only [List.cons_append, List.modify_succ_cons, ih, List.length_cons, Nat.add_lt_add_iff_right,
        Nat.add_sub_add_right]
      split <;> rfl

end BeaconWatch
