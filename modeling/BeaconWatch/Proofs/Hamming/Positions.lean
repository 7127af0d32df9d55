import BeaconWatch.Proofs.Hamming.DoubleErrors

/-!
Received words by their positions. The groups of odd parity spell the exclusive or of the positions of the ones, and the
data stands, in order, at the positions that are no powers of two.
-/

set_option autoImplicit false

namespace BeaconWatch.Hamming

def onePositions (length : Nat) (word : Bits) : List Nat :=
  (List.range' 1 length).filter (HasOne word ·)

def xorPositions (length : Nat) (word : Bits) : Nat :=
  (onePositions length word).foldl (· ^^^ ·) 0

def dataPositions (length : Nat) : List Nat :=
  (List.range' 1 length).filter fun position => !isPowerOfTwo position

-- The bits of a word at the data positions of its core.
def readData (length : Nat) (word : Bits) : Bits :=
  (dataPositions length).map (HasOne word ·)

theorem hasOne_append {core : Bits} {position : Nat} (inside : position ≤ core.length) (rest : Bits) :
    HasOne (core ++ rest) position ↔ HasOne core position := by
  refine and_congr_right fun positive => ?_
  rw [List.getElem?_append_left (by omega)]

theorem hasOne_concat_self (core : Bits) (bit : Bool) : HasOne (core ++ [bit]) (core.length + 1) ↔ bit = true := by
  simp [HasOne]

theorem onePositions_append (core rest : Bits) :
    onePositions core.length (core ++ rest) = onePositions core.length core := by
  apply List.filter_congr
  intro position member
  have inside := (List.mem_range'_1.mp member).2
  simp only [hasOne_append (show position ≤ core.length by omega)]

theorem readData_append (core rest : Bits) :
    readData core.length (core ++ rest) = readData core.length core := by
  apply List.map_congr_left
  intro position member
  have inside := (List.mem_range'_1.mp (List.mem_filter.mp member).1).2
  simp only [hasOne_append (show position ≤ core.length by omega)]

theorem onePositions_concat (core : Bits) (bit : Bool) :
    onePositions (core.length + 1) (core ++ [bit]) =
      onePositions core.length core ++ if bit then [core.length + 1] else [] := by
  have before := onePositions_append core [bit]
  have last := hasOne_concat_self core bit
  simp only [onePositions] at before ⊢
  simp only [List.range'_1_concat, List.filter_append, before, Nat.add_comm 1]
  cases bit <;> simp [last]

theorem dataPositions_succ (length : Nat) :
    dataPositions (length + 1) =
      dataPositions length ++ if isPowerOfTwo (length + 1) then [] else [length + 1] := by
  simp only [dataPositions, List.range'_1_concat, List.filter_append, Nat.add_comm 1]
  cases power : isPowerOfTwo (length + 1) <;> simp [power]

theorem readData_concat (core : Bits) (bit : Bool) :
    readData (core.length + 1) (core ++ [bit]) =
      readData core.length core ++ if isPowerOfTwo (core.length + 1) then [] else [bit] := by
  have before := readData_append core [bit]
  have last := hasOne_concat_self core bit
  simp only [readData] at before ⊢
  simp only [dataPositions_succ, List.map_append, before]
  split <;> simp [last]

-- From the end: a new last bit leaves the positions of the others as they are.
theorem xorPositions_eq (core : Bits) : xorPositions core.length core = positions core := by
  induction core using List.reverseRecOn with
  | nil => rfl
  | append_singleton core bit ih =>
    have last : positions (core ++ [bit]) = positions core ^^^ if bit then core.length + 1 else 0 := by
      simp only [positions, positionsFrom_append, positionsFrom, Nat.add_comm 1, Nat.xor_zero]
    rw [xorPositions] at ih
    simp only [xorPositions, List.length_append, List.length_singleton, onePositions_concat, List.foldl_append, ih,
      last]
    cases bit <;> simp

theorem readData_eq (core : Bits) : readData core.length core = dataBits core := by
  induction core using List.reverseRecOn with
  | nil => rfl
  | append_singleton core bit ih =>
    have last : dataBits (core ++ [bit]) = dataBits core ++ if isPowerOfTwo (core.length + 1) then [] else [bit] := by
      simp only [dataBits, dataFrom_append, dataFrom, Nat.add_comm 1]
    simp only [List.length_append, List.length_singleton, readData_concat, ih, last]

theorem xorPositions_append (core rest : Bits) : xorPositions core.length (core ++ rest) = positions core := by
  rw [xorPositions, onePositions_append, ← xorPositions_eq, xorPositions]

/-- What the groups so far have added up to: the lower digits of what they spell in the end. -/
theorem syndrome_eq_mod (core : Bits) (groups : Nat) : syndrome core groups = positions core % 2 ^ groups := by
  simp only [syndrome, groupParity_eq_testBit, weights_sum]

theorem readData_repair {core : Bits} (inside : positions core ≤ core.length) (rest : Bits) :
    readData core.length (if positions core = 0 then core ++ rest else flip (core ++ rest) (positions core)) =
      dataBits (repair core) := by
  rw [repair]
  split
  case isTrue => rw [readData_append, readData_eq]
  case isFalse damaged =>
    have same := readData_append (flip core (positions core)) rest
    rw [length_flip] at same
    rw [flip_append (Nat.pos_of_ne_zero damaged) inside, same, ← readData_eq, length_flip]

theorem syndrome_receiverGroupCount (core : Bits) :
    syndrome core (receiverGroupCount (core.length + 1)) = positions core := by
  have digits := lt_receiverGroupCount (core.length + 1)
  exact syndrome_eq_positions core (by omega)

theorem decode_of_inside {core : Bits} (inside : positions core ≤ core.length) (check : Bool) :
    decode (core ++ [check]) =
      if checkBit (dataBits (repair core)) = check then
        if positions core = 0 then .clean (dataBits (repair core))
        else .corrected (positions core) (dataBits (repair core))
      else .checkMismatch := by
  by_cases even : positions core = 0
  next => simp [decode_of_even even, repair, even]
  next => simp [decode_of_damaged even inside, repair, even]

theorem decode_eq_syndromeOutOfRange_iff (core : Bits) (check : Bool) :
    decode (core ++ [check]) = .syndromeOutOfRange (positions core) ↔ core.length < positions core := by
  by_cases inside : positions core ≤ core.length
  next =>
    simp only [decode_of_inside inside, Nat.not_lt.mpr inside, iff_false]
    split
    next => split <;> simp
    next => simp
  next =>
    have outside := Nat.lt_of_not_le inside
    simp only [decode_of_outside outside, outside]

/-- How the ones of a received word decide what it is decoded to. -/
theorem decodeSamples_by_positions {length : Nat} {samples : List UInt8} (size : samples.length = length + 1) :
    let word := lowBits samples
    let spelled := xorPositions length word
    let data := readData length (if spelled = 0 then word else flip word spelled)
    (∀ groups, syndrome word.dropLast groups = spelled % 2 ^ groups) ∧
    syndrome word.dropLast (receiverGroupCount samples.length) = spelled ∧
    (samples.length < 2 ^ 64 →
      syndrome? word.dropLast (receiverGroupCount samples.length) = some spelled ∧
        decode? word = some (decodeSamples samples)) ∧
    (decodeSamples samples = .syndromeOutOfRange spelled ↔ length < spelled) ∧
    (spelled ≤ length → decodeSamples samples =
      if some (checkBit data) = word.getLast? then
        if spelled = 0 then .clean data else .corrected spelled data
      else .checkMismatch) := by
  obtain ⟨core, check, rfl, received⟩ := exists_core_check ((length_lowBits samples).trans size)
  have spelled := syndrome_receiverGroupCount core
  simp only [decodeSamples, received, size, xorPositions_append, List.dropLast_concat, List.getLast?_concat,
    Option.some.injEq]
  refine ⟨syndrome_eq_mod core, spelled, ?_, decode_eq_syndromeOutOfRange_iff core check, ?_⟩
  next =>
    intro small
    have groups := (receiverGroupCount_le_iff _ 64).mpr small
    simp [syndrome?_eq core groups, spelled, decode?_eq, small]
  next =>
    intro inside
    simp only [readData_repair inside, decode_of_inside inside]

-- The sixth position of seven is damaged; in a core of five, two ones spell the seventh; and a wrong check bit.
theorem decodeSamples_by_positions_small :
    (([0, 1, 1, 0, 0, 2, 1, 3] : List UInt8).length = 7 + 1 ∧ 8 < 2 ^ 64 ∧
      xorPositions 7 (lowBits [0, 1, 1, 0, 0, 2, 1, 3]) = 6 ∧ 6 ≤ 7 ∧
      decode? (lowBits [0, 1, 1, 0, 0, 2, 1, 3]) = some (.corrected 6 [true, false, true, true])) ∧
    (([0, 0, 1, 1, 0, 1] : List UInt8).length = 5 + 1 ∧ xorPositions 5 (lowBits [0, 0, 1, 1, 0, 1]) = 7 ∧ 5 < 7 ∧
      decodeSamples [0, 0, 1, 1, 0, 1] = .syndromeOutOfRange 7) ∧
    (([1, 1, 1, 0] : List UInt8).length = 3 + 1 ∧ xorPositions 3 (lowBits [1, 1, 1, 0]) = 0 ∧
      decodeSamples [1, 1, 1, 0] = .checkMismatch) := by
  have sizeDamaged : ([0, 1, 1, 0, 0, 2, 1, 3] : List UInt8).length = 7 + 1 := rfl
  have sizeOutside : ([0, 0, 1, 1, 0, 1] : List UInt8).length = 5 + 1 := rfl
  have sizeMismatch : ([1, 1, 1, 0] : List UInt8).length = 3 + 1 := rfl
  have sixth : xorPositions 7 (lowBits [0, 1, 1, 0, 0, 2, 1, 3]) = 6 := by decide
  have seventh : xorPositions 5 (lowBits [0, 0, 1, 1, 0, 1]) = 7 := by decide
  have zero : xorPositions 3 (lowBits [1, 1, 1, 0]) = 0 := by decide
  obtain ⟨-, -, words, -, damaged⟩ := decodeSamples_by_positions sizeDamaged
  obtain ⟨-, -, -, outside, -⟩ := decodeSamples_by_positions sizeOutside
  obtain ⟨-, -, -, -, mismatch⟩ := decodeSamples_by_positions sizeMismatch
  rw [sixth] at damaged
  rw [seventh] at outside
  rw [zero] at mismatch
  have repaired := damaged (by decide)
  have refused := mismatch (by decide)
  have inWords := (words (by decide)).2
  rw [repaired] at inWords
  refine ⟨⟨sizeDamaged, by decide, sixth, by decide, inWords.trans (by decide)⟩,
    ⟨sizeOutside, seventh, by decide, outside.mpr (by decide)⟩,
    ⟨sizeMismatch, zero, refused.trans (by decide)⟩⟩

end BeaconWatch.Hamming
