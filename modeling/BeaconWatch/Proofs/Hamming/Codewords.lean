import BeaconWatch.Proofs.Hamming.Sizes
import BeaconWatch.Proofs.Hamming.Syndrome
import Mathlib.Data.List.Induction

/-!
Encoding gives the one core of its length that has the data in it and every group even. It is found by
setting one parity bit after another, each at a position of its own group alone.
-/

set_option autoImplicit false

namespace BeaconWatch.Hamming

theorem dataFrom_append (position : Nat) (a b : Bits) :
    dataFrom position (a ++ b) = dataFrom position a ++ dataFrom (position + a.length) b := by
  induction a generalizing position with
  | nil => rfl
  | cons head rest ih =>
    have next : position + (head :: rest).length = position + 1 + rest.length := by
      simp only [List.length_cons]
      omega
    rw [List.cons_append, dataFrom, dataFrom, ih, next]
    split <;> rfl

-- Each binary digit of the core's length stands for one parity position.
theorem length_dataBits (core : Bits) :
    (dataBits core).length + receiverGroupCount core.length = core.length := by
  induction core using List.reverseRecOn with
  | nil => rfl
  | append_singleton core bit ih =>
    have place : 1 + core.length = core.length + 1 := by omega
    rw [dataBits, dataFrom_append, place, List.length_append, List.length_append, List.length_singleton,
      receiverGroupCount_succ]
    change (dataBits core).length + _ + _ = _
    cases power : isPowerOfTwo (core.length + 1) <;> simp [dataFrom, power] <;> omega

theorem length_dataBits_of_coreLength {core : Bits} {dataLength : Nat}
    (length : core.length = coreLength dataLength) : (dataBits core).length = dataLength := by
  have h := length_dataBits core
  rw [length, receiverGroupCount_coreLength, coreLength] at h
  omega

theorem dataFrom_spreadFrom (position count : Nat) (data : Bits)
    (full : (dataFrom position (spreadFrom position count data)).length = data.length) :
    dataFrom position (spreadFrom position count data) = data := by
  induction count generalizing position data with
  | zero => exact (List.length_eq_zero_iff.mp full.symm).symm
  | succ count ih =>
    cases power : isPowerOfTwo position with
    | true =>
      simp only [spreadFrom, dataFrom, power, if_true] at full ⊢
      exact ih _ _ full
    | false =>
      cases data with
      | nil => simp [spreadFrom, dataFrom, power] at full
      | cons bit rest =>
        simp only [spreadFrom, dataFrom, power, Bool.false_eq_true, if_false] at full ⊢
        rw [ih _ _ (by simpa using full)]

theorem dataBits_spreadFrom (data : Bits) :
    dataBits (spreadFrom 1 (coreLength data.length) data) = data :=
  dataFrom_spreadFrom 1 _ data (length_dataBits_of_coreLength (length_spreadFrom ..))

theorem spreadFrom_parity (position count : Nat) (data : Bits) {index : Nat} (inside : index < count)
    (power : isPowerOfTwo (position + index) = true) :
    (spreadFrom position count data)[index]? = some false := by
  induction count generalizing position data index with
  | zero => omega
  | succ count ih =>
    cases index with
    | zero =>
      rw [Nat.add_zero] at power
      simp [spreadFrom, power]
    | succ index =>
      have later (data : Bits) := ih (position + 1) data (show index < count by omega)
        (by rwa [Nat.add_assoc, Nat.add_comm 1])
      cases data <;> simp only [spreadFrom] <;> split <;> simp [later]

theorem dataFrom_set (position : Nat) (core : Bits) (index : Nat) (bit : Bool)
    (power : isPowerOfTwo (position + index) = true) :
    dataFrom position (core.set index bit) = dataFrom position core := by
  induction core generalizing position index with
  | nil => rfl
  | cons head rest ih =>
    cases index with
    | zero =>
      rw [Nat.add_zero] at power
      simp [dataFrom, power]
    | succ index =>
      have later := ih (position + 1) index (by rwa [Nat.add_assoc, Nat.add_comm 1])
      simp [dataFrom, later]

theorem positionsFrom_set (position : Nat) (core : Bits) (index : Nat) (bit : Bool)
    (zero : core[index]? = some false) :
    positionsFrom position (core.set index bit) =
      positionsFrom position core ^^^ if bit then position + index else 0 := by
  induction core generalizing position index with
  | nil => simp at zero
  | cons head rest ih =>
    cases index with
    | zero =>
      obtain rfl : head = false := by simpa using zero
      simp [positionsFrom, Nat.xor_comm]
    | succ index =>
      have later := ih (position + 1) index (by simpa using zero)
      have next : position + 1 + index = position + (index + 1) := by omega
      rw [List.set_cons_succ, positionsFrom, positionsFrom, later, next, Nat.xor_assoc]

/-- A core on its way: the parity bits of the first groups are set, the others still zero. -/
structure PartlyEncoded (data : Bits) (groups : Nat) (core : Bits) : Prop where
  length_eq : core.length = coreLength data.length
  data_eq : dataBits core = data
  even : ∀ group, group < groups → (positions core).testBit group = false
  blank : ∀ group, groups ≤ group → group < parityBitCount data.length → core[2 ^ group - 1]? = some false

theorem partlyEncoded_spread (data : Bits) :
    PartlyEncoded data 0 (spreadFrom 1 (coreLength data.length) data) where
  length_eq := length_spreadFrom ..
  data_eq := dataBits_spreadFrom data
  even := fun _ none => absurd none (Nat.not_lt_zero _)
  blank := by
    intro group _ parity
    have positive := Nat.two_pow_pos group
    have inside := two_pow_lt_coreLength parity
    have place : 1 + (2 ^ group - 1) = 2 ^ group := by omega
    exact spreadFrom_parity 1 _ data (by omega) (by rw [place, isPowerOfTwo_two_pow])

theorem PartlyEncoded.setParity {data core : Bits} {group : Nat} (part : PartlyEncoded data group core)
    (parity : group < parityBitCount data.length) :
    PartlyEncoded data (group + 1) (setParity core group) := by
  have positive := Nat.two_pow_pos group
  have place : 1 + (2 ^ group - 1) = 2 ^ group := by omega
  have zero := part.blank group (Nat.le_refl _) parity
  have moved := positionsFrom_set 1 core (2 ^ group - 1) (groupParity core group) zero
  rw [place, groupParity_eq_testBit] at moved
  constructor
  case length_eq => rw [length_setParity, part.length_eq]
  case data_eq => exact (dataFrom_set 1 core _ _ (by rw [place, isPowerOfTwo_two_pow])).trans part.data_eq
  case even =>
    intro other below
    change (positionsFrom 1 (core.set _ _)).testBit other = false
    rw [groupParity_eq_testBit, moved, Nat.testBit_xor]
    change ((positions core).testBit other ^^ _) = false
    -- The parity bit clears its group's own digit and moves no other, its position being a power of two.
    rcases Nat.lt_succ_iff_lt_or_eq.mp below with apart | rfl
    · have distinct : group ≠ other := by omega
      rw [part.even other apart]
      split <;> simp [Nat.testBit_two_pow_of_ne distinct]
    · cases bit : (positions core).testBit other <;> simp
  case blank =>
    intro other above bound
    have far : 2 ^ group < 2 ^ other := Nat.pow_lt_pow_right (by omega) above
    rw [Hamming.setParity, List.getElem?_set_ne (by omega)]
    exact part.blank other (by omega) bound

theorem partlyEncoded_run (data : Bits) {groups : Nat} (bound : groups ≤ parityBitCount data.length) :
    PartlyEncoded data groups ((List.range groups).foldl Hamming.setParity
      (spreadFrom 1 (coreLength data.length) data)) := by
  induction groups with
  | zero => exact partlyEncoded_spread data
  | succ groups ih =>
    rw [List.range_succ, List.foldl_append]
    exact (ih (by omega)).setParity bound

theorem partlyEncoded_encodeCore (data : Bits) :
    PartlyEncoded data (parityBitCount data.length) (encodeCore data) :=
  partlyEncoded_run data (Nat.le_refl _)

@[simp] theorem length_encodeCore (data : Bits) : (encodeCore data).length = coreLength data.length :=
  (partlyEncoded_encodeCore data).length_eq

theorem length_encode (data : Bits) : (encode data).length = codewordLength data.length := by
  simp [encode, codewordLength]

@[simp] theorem dataBits_encodeCore (data : Bits) : dataBits (encodeCore data) = data :=
  (partlyEncoded_encodeCore data).data_eq

@[simp] theorem positions_encodeCore (data : Bits) : positions (encodeCore data) = 0 := by
  apply Nat.eq_of_testBit_eq
  intro group
  rw [Nat.zero_testBit]
  by_cases low : group < parityBitCount data.length
  · exact (partlyEncoded_encodeCore data).even group low
  · have small : positions (encodeCore data) < 2 ^ parityBitCount data.length :=
      positions_lt _ (by rw [length_encodeCore]; exact coreLength_lt _)
    exact Nat.testBit_lt_two_pow
      (Nat.lt_of_lt_of_le small (Nat.pow_le_pow_right (by omega) (by omega)))

-- Past its own parity position a group sees data bits only.
theorem parityFrom_congr (group position : Nat) (a b : Bits) (past : 2 ^ group < position)
    (length : a.length = b.length) (data : dataFrom position a = dataFrom position b) :
    parityFrom group position a = parityFrom group position b := by
  induction a generalizing b position with
  | nil => rw [List.length_eq_zero_iff.mp length.symm]
  | cons x as ih =>
    cases b with
    | nil => simp at length
    | cons y bs =>
      have later := ih (position + 1) bs (by omega) (by simpa using length)
      cases power : isPowerOfTwo position with
      | true =>
        obtain ⟨other, rfl⟩ := (isPowerOfTwo_iff _).mp power
        have distinct : other ≠ group := by rintro rfl; omega
        simp only [dataFrom, power, if_true] at data
        simp [parityFrom, Nat.testBit_two_pow_of_ne distinct, later data]
      | false =>
        simp only [dataFrom, power, Bool.false_eq_true, if_false, List.cons.injEq] at data
        simp [parityFrom, data.1, later data.2]

theorem eq_of_dataFrom_eq (position : Nat) (a b : Bits) (length : a.length = b.length)
    (data : dataFrom position a = dataFrom position b)
    (parity : ∀ group, position ≤ 2 ^ group → parityFrom group position a = parityFrom group position b) :
    a = b := by
  induction a generalizing b position with
  | nil => exact (List.length_eq_zero_iff.mp length.symm).symm
  | cons x as ih =>
    cases b with
    | nil => simp at length
    | cons y bs =>
      have short : as.length = bs.length := by simpa using length
      have later := ih (position + 1) bs short
      cases power : isPowerOfTwo position with
      | true =>
        obtain ⟨own, rfl⟩ := (isPowerOfTwo_iff _).mp power
        simp only [dataFrom, power, if_true] at data
        -- The rest of the group is data, on which the two agree, so its parity decides this bit.
        have rest := parityFrom_congr own (2 ^ own + 1) as bs (by omega) short data
        have heads : x = y := by simpa [parityFrom, rest] using parity own (Nat.le_refl _)
        rw [heads, later data]
        intro group above
        simpa [parityFrom, heads] using parity group (by omega)
      | false =>
        simp only [dataFrom, power, Bool.false_eq_true, if_false, List.cons.injEq] at data
        rw [data.1, later data.2]
        intro group above
        simpa [parityFrom, data.1] using parity group (by omega)

/-- The data bits and an even parity of every group pin down the core. -/
theorem eq_of_dataBits_eq {a b : Bits} (length : a.length = b.length) (data : dataBits a = dataBits b)
    (ha : positions a = 0) (hb : positions b = 0) : a = b := by
  apply eq_of_dataFrom_eq 1 a b length data
  intro group _
  rw [parityFrom_eq_testBit, parityFrom_eq_testBit]
  exact congrArg (fun value => value.testBit group) (ha.trans hb.symm)

theorem eq_encodeCore {core : Bits} {dataLength : Nat} (length : core.length = coreLength dataLength)
    (even : positions core = 0) : core = encodeCore (dataBits core) :=
  eq_of_dataBits_eq (by simp [length, length_dataBits_of_coreLength length]) (by simp) even (by simp)

theorem dataFrom_sublist (position : Nat) (core : Bits) : (dataFrom position core).Sublist core := by
  induction core generalizing position with
  | nil => exact List.Sublist.slnil
  | cons bit rest ih =>
    simp only [dataFrom]
    split
    · exact (ih _).cons bit
    · exact (ih _).cons_cons bit

theorem checkBit_eq_false_iff (bits : Bits) :
    checkBit bits = false ↔ bits = List.replicate bits.length false := by
  simp [checkBit, List.eq_replicate_iff]

@[simp] theorem positionsFrom_replicate (position count : Nat) :
    positionsFrom position (List.replicate count false) = 0 := by
  induction count generalizing position with
  | zero => rfl
  | succ count ih => simp [List.replicate_succ, positionsFrom, ih]

/-- The sender's check bit, over the whole core, is the receiver's, over the data. -/
@[simp] theorem checkBit_encodeCore (data : Bits) : checkBit (encodeCore data) = checkBit data := by
  cases check : checkBit data with
  | true =>
    obtain ⟨bit, member, one⟩ := List.any_eq_true.mp check
    rw [← dataBits_encodeCore data] at member
    exact List.any_eq_true.mpr ⟨bit, (dataFrom_sublist 1 _).mem member, one⟩
  | false =>
    -- The zero core has no data and every group even, so it is the one that encoding finds.
    have zeros := (checkBit_eq_false_iff data).mp check
    have blank : (List.replicate (coreLength data.length) false) = encodeCore data := by
      apply eq_of_dataBits_eq (by simp) _ (positionsFrom_replicate 1 _) (positions_encodeCore data)
      rw [dataBits_encodeCore, zeros, List.eq_replicate_iff]
      refine ⟨by simpa using length_dataBits_of_coreLength (List.length_replicate ..), fun bit member => ?_⟩
      exact List.eq_of_mem_replicate ((dataFrom_sublist 1 _).mem member)
    rw [checkBit_eq_false_iff, ← blank, List.length_replicate]

theorem setParity?_run (data : Bits) (small : data.length ≤ 2 ^ 63 - 64) {groups : Nat}
    (bound : groups ≤ parityBitCount data.length) :
    (List.range groups).foldlM setParity? (spreadFrom 1 (coreLength data.length) data) =
      some ((List.range groups).foldl setParity (spreadFrom 1 (coreLength data.length) data)) := by
  induction groups with
  | zero => rfl
  | succ groups ih =>
    have shift := Word.powerOfTwo?_of_lt (Nat.lt_of_lt_of_le bound (Nat.le_of_lt (parityBitCount_lt_word small)))
    have inside := two_pow_lt_coreLength bound
    have reached := (partlyEncoded_run data (Nat.le_of_lt bound)).length_eq
    rw [List.range_succ, List.foldlM_append, ih (by omega), List.foldl_append]
    simp only [Option.bind_eq_bind, Option.bind_some, List.foldlM_cons, List.foldlM_nil, List.foldl_cons,
      List.foldl_nil, setParity?, shift, reached]
    rw [if_pos (by omega)]
    rfl

theorem encode?_eq {data : Bits} (small : data.length ≤ 2 ^ 63 - 64) : encode? data = some (encode data) := by
  simp only [encode?, parityBitCount?_eq, if_pos small, add?_parityBitCount small, add?_coreLength small,
    Option.bind_eq_bind, Option.bind_some, setParity?_run data small (Nat.le_refl _)]
  rfl

end BeaconWatch.Hamming
