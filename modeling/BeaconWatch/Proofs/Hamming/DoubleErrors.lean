import BeaconWatch.Proofs.Hamming.Outcomes

/-!
Sent codewords damaged at two positions of the core. The receiver takes both for one error at the exclusive
or of the two positions. If that lies in the core it is flipped as well, which leads to another codeword;
the check bit notices this only where one of the two cores is all zeros.
-/

set_option autoImplicit false

namespace BeaconWatch.Hamming

-- Whether a core has a one at a position.
def HasOne (core : Bits) (position : Nat) : Prop :=
  0 < position ∧ core[position - 1]? = some true

instance (core : Bits) (position : Nat) : Decidable (HasOne core position) :=
  inferInstanceAs (Decidable (_ ∧ _))

theorem hasOne_flip {core : Bits} {position : Nat} (positive : 0 < position) (inside : position ≤ core.length)
    (other : Nat) : HasOne (flip core position) other ↔ (HasOne core other ↔ other ≠ position) := by
  rw [HasOne, HasOne, flip, List.getElem?_modify]
  by_cases same : other = position
  · subst same
    have bound : other - 1 < core.length := by omega
    simp [positive, bound]
  · by_cases outside : other = 0
    · have apart : 0 ≠ position := by omega
      simp [outside, apart]
    · have apart : position - 1 ≠ other - 1 := by omega
      simp [apart, same]

theorem checkBit_eq_true_iff (bits : Bits) : checkBit bits = true ↔ ∃ position, HasOne bits position := by
  simp only [checkBit, List.any_eq_true, List.mem_iff_getElem?, HasOne]
  constructor
  · rintro ⟨bit, ⟨index, found⟩, one⟩
    refine ⟨index + 1, Nat.succ_pos index, ?_⟩
    simpa [← show bit = true from one] using found
  · rintro ⟨position, -, found⟩
    exact ⟨true, ⟨position - 1, found⟩, rfl⟩

theorem checkBit_eq_false_iff_hasOne (bits : Bits) :
    checkBit bits = false ↔ ∀ position, ¬ HasOne bits position := by
  rw [← Bool.not_eq_true, checkBit_eq_true_iff, not_exists]

/-- Two different positions of a core. -/
structure TwoPositions (length i j : Nat) : Prop where
  first_pos : 1 ≤ i
  first_le : i ≤ length
  second_pos : 1 ≤ j
  second_le : j ≤ length
  distinct : i ≠ j

namespace TwoPositions

variable {length i j : Nat} (two : TwoPositions length i j)

include two

theorem xor_ne_zero : i ^^^ j ≠ 0 :=
  Nat.xor_ne_zero_iff.mpr two.distinct

theorem xor_ne_first : i ^^^ j ≠ i := by
  intro same
  have positive := two.second_pos
  have none : j = 0 := Nat.xor_right_inj.mp (same.trans (Nat.xor_zero i).symm)
  omega

theorem xor_ne_second : i ^^^ j ≠ j := by
  intro same
  have positive := two.first_pos
  have none : i = 0 := Nat.xor_left_inj.mp (same.trans (Nat.zero_xor j).symm)
  omega

end TwoPositions

-- The core that the receiver makes of one damaged at two positions.
def miscorrect (core : Bits) (i j : Nat) : Bits :=
  flip (flip (flip core i) j) (i ^^^ j)

@[simp] theorem length_miscorrect (core : Bits) (i j : Nat) : (miscorrect core i j).length = core.length := by
  simp [miscorrect]

def OnesExactlyAt (core : Bits) (i j k : Nat) : Prop :=
  ∀ position, HasOne core position ↔ position = i ∨ position = j ∨ position = k

-- Whether the correction leads from a core without ones, or to one.
def Collapses (data : Bits) (i j : Nat) : Prop :=
  data = List.replicate data.length false ∨ OnesExactlyAt (encodeCore data) i j (i ^^^ j)

section

variable {core : Bits} {i j : Nat} (two : TwoPositions core.length i j)

include two

theorem positions_flip_flip : positions (flip (flip core i) j) = positions core ^^^ i ^^^ j := by
  have second : j ≤ (flip core i).length := by
    rw [length_flip]
    exact two.second_le
  rw [positions_flip _ two.second_pos second, positions_flip _ two.first_pos two.first_le]

variable (inside : i ^^^ j ≤ core.length)

include inside

theorem hasOne_miscorrect (position : Nat) :
    HasOne (miscorrect core i j) position ↔
      (HasOne core position ↔ ¬ (position = i ∨ position = j ∨ position = i ^^^ j)) := by
  have third := Nat.pos_of_ne_zero two.xor_ne_zero
  have first : ∀ other, HasOne (flip core i) other ↔ (HasOne core other ↔ other ≠ i) :=
    hasOne_flip two.first_pos two.first_le
  have second : ∀ other, HasOne (flip (flip core i) j) other ↔ (HasOne (flip core i) other ↔ other ≠ j) :=
    hasOne_flip two.second_pos (by simpa using two.second_le)
  rw [miscorrect, hasOne_flip third (by simpa using inside), second, first]
  -- No two of the three positions are the same, so each is flipped once.
  have distinct := two.distinct
  have apartFirst := two.xor_ne_first
  have apartSecond := two.xor_ne_second
  by_cases atFirst : position = i
  · subst position
    simp [distinct, apartFirst.symm]
  · by_cases atSecond : position = j
    · subst position
      simp [atFirst, apartSecond.symm]
    · simp [atFirst, atSecond]

theorem checkBit_miscorrect_eq_false_iff :
    checkBit (miscorrect core i j) = false ↔ OnesExactlyAt core i j (i ^^^ j) := by
  rw [checkBit_eq_false_iff_hasOne, OnesExactlyAt]
  refine forall_congr' fun position => ?_
  rw [hasOne_miscorrect two inside]
  tauto

/-- The two cores differ in their check bits where one of them is all zeros. They never both are. -/
theorem checkBit_miscorrect_eq_iff :
    checkBit (miscorrect core i j) = checkBit core ↔
      ¬ (checkBit core = false ∨ OnesExactlyAt core i j (i ^^^ j)) := by
  rw [← checkBit_miscorrect_eq_false_iff two inside]
  cases old : checkBit core with
  | true => simp
  | false =>
    have zero := (checkBit_eq_false_iff_hasOne core).mp old i
    have one : HasOne (miscorrect core i j) i := by simp [hasOne_miscorrect two inside, zero]
    have new := (checkBit_eq_true_iff _).mpr ⟨i, one⟩
    simp [new]

theorem miscorrect_ne : miscorrect core i j ≠ core := by
  intro same
  have first := hasOne_miscorrect two inside i
  rw [same] at first
  simp at first

end

theorem length_dataBits_miscorrect (data : Bits) (i j : Nat) :
    (dataBits (miscorrect (encodeCore data) i j)).length = data.length :=
  length_dataBits_of_coreLength (by rw [length_miscorrect, length_encodeCore])

section

variable {data : Bits} {i j : Nat} (two : TwoPositions (coreLength data.length) i j)

include two

theorem flip_flip_encode :
    flip (flip (encode data) i) j =
      flip (flip (encodeCore data) i) j ++ [checkBit (encodeCore data)] := by
  have second : j ≤ (flip (encodeCore data) i).length := by simpa using two.second_le
  rw [flip_encode two.first_pos two.first_le, flip_append two.second_pos second]

theorem positions_flip_flip_encodeCore : positions (flip (flip (encodeCore data) i) j) = i ^^^ j := by
  rw [← length_encodeCore] at two
  rw [positions_flip_flip two, positions_encodeCore, Nat.zero_xor]

theorem decode_two_outside (outside : coreLength data.length < i ^^^ j) :
    decode (flip (flip (encode data) i) j) = .syndromeOutOfRange (i ^^^ j) := by
  have spelled := positions_flip_flip_encodeCore two
  rw [flip_flip_encode two, decode_of_outside, spelled]
  simpa [spelled] using outside

variable (inside : i ^^^ j ≤ coreLength data.length)

include inside

theorem positions_miscorrect : positions (miscorrect (encodeCore data) i j) = 0 := by
  have third := Nat.pos_of_ne_zero two.xor_ne_zero
  rw [miscorrect, positions_flip _ third (by simpa using inside), positions_flip_flip_encodeCore two, Nat.xor_self]

theorem miscorrect_eq_encodeCore :
    miscorrect (encodeCore data) i j = encodeCore (dataBits (miscorrect (encodeCore data) i j)) :=
  eq_encodeCore (by rw [length_miscorrect, length_encodeCore]) (positions_miscorrect two inside)

theorem decode_two_inside :
    decode (flip (flip (encode data) i) j) =
      if checkBit (miscorrect (encodeCore data) i j) = checkBit (encodeCore data) then
        .corrected (i ^^^ j) (dataBits (miscorrect (encodeCore data) i j))
      else .checkMismatch := by
  have spelled := positions_flip_flip_encodeCore two
  have check : checkBit (dataBits (miscorrect (encodeCore data) i j)) = checkBit (miscorrect (encodeCore data) i j) := by
    rw [← checkBit_encodeCore, ← miscorrect_eq_encodeCore two inside]
  rw [flip_flip_encode two, decode_of_damaged, spelled, ← miscorrect, check]
  · rw [spelled]
    exact two.xor_ne_zero
  · simpa [spelled] using inside

theorem checkBit_miscorrect_encodeCore :
    checkBit (miscorrect (encodeCore data) i j) = checkBit (encodeCore data) ↔ ¬ Collapses data i j := by
  rw [← length_encodeCore] at two inside
  rw [checkBit_miscorrect_eq_iff two inside, checkBit_encodeCore, checkBit_eq_false_iff, Collapses]

theorem decode_two_collapsing (collapse : Collapses data i j) :
    decode (flip (flip (encode data) i) j) = .checkMismatch := by
  have differ : checkBit (miscorrect (encodeCore data) i j) ≠ checkBit (encodeCore data) :=
    fun same => (checkBit_miscorrect_encodeCore two inside).mp same collapse
  rw [decode_two_inside two inside, if_neg differ]

theorem decode_two_unnoticed (other : ¬ Collapses data i j) :
    decode (flip (flip (encode data) i) j) =
      .corrected (i ^^^ j) (dataBits (miscorrect (encodeCore data) i j)) := by
  rw [decode_two_inside two inside, if_pos ((checkBit_miscorrect_encodeCore two inside).mpr other)]

theorem dataBits_miscorrect_ne : dataBits (miscorrect (encodeCore data) i j) ≠ data := by
  intro same
  have codeword := miscorrect_eq_encodeCore two inside
  rw [same] at codeword
  rw [← length_encodeCore] at two inside
  exact miscorrect_ne two inside codeword

end

theorem TwoPositions.data_ne_nil {data : Bits} {i j : Nat} (two : TwoPositions (coreLength data.length) i j) :
    data ≠ [] := by
  rintro rfl
  have empty : coreLength 0 = 0 := rfl
  have positive := two.first_pos
  have below := two.first_le
  rw [List.length_nil, empty] at below
  omega

/-- Two damaged core bits are never put right. They are noticed where they point out of the core, and where
the correction leads from a core without ones or to one. -/
theorem decode_encode_damaged_twice {data : Bits} {i j : Nat} (two : TwoPositions (coreLength data.length) i j) :
    (coreLength data.length < i ^^^ j →
      decode (flip (flip (encode data) i) j) = .syndromeOutOfRange (i ^^^ j)) ∧
    (i ^^^ j ≤ coreLength data.length → Collapses data i j →
      decode (flip (flip (encode data) i) j) = .checkMismatch) ∧
    (i ^^^ j ≤ coreLength data.length → ¬ Collapses data i j →
      ∃ other, decode (flip (flip (encode data) i) j) = .corrected (i ^^^ j) other ∧
        other ≠ data ∧ other.length = data.length) ∧
    (∀ found, decode (flip (flip (encode data) i) j) ≠ .clean found) ∧
    (decode (flip (flip (encode data) i) j)).bits ≠ data := by
  have refused : [] ≠ data := two.data_ne_nil.symm
  refine ⟨decode_two_outside two, decode_two_collapsing two, ?_, ?_⟩
  · intro inside other
    exact ⟨_, decode_two_unnoticed two inside other, dataBits_miscorrect_ne two inside,
      length_dataBits_miscorrect data i j⟩
  · by_cases inside : i ^^^ j ≤ coreLength data.length
    · by_cases collapse : Collapses data i j
      · rw [decode_two_collapsing two inside collapse]
        exact ⟨by simp, refused⟩
      · rw [decode_two_unnoticed two inside collapse]
        exact ⟨by simp, dataBits_miscorrect_ne two inside⟩
    · rw [decode_two_outside two (Nat.lt_of_not_le inside)]
      exact ⟨by simp, refused⟩

-- Out of the core, to the core without ones, and to another codeword.
theorem decode_encode_damaged_twice_small :
    (TwoPositions (coreLength 2) 3 4 ∧ coreLength 2 < 3 ^^^ 4 ∧
      decode (flip (flip (encode [true, true]) 3) 4) = .syndromeOutOfRange 7) ∧
    (TwoPositions (coreLength 1) 1 2 ∧ 1 ^^^ 2 ≤ coreLength 1 ∧ Collapses [true] 1 2 ∧
      decode (flip (flip (encode [true]) 1) 2) = .checkMismatch) ∧
    (TwoPositions (coreLength 4) 1 2 ∧ 1 ^^^ 2 ≤ coreLength 4 ∧ ¬ Collapses [true, false, true, true] 1 2 ∧
      ∃ other, decode (flip (flip (encode [true, false, true, true]) 1) 2) = .corrected 3 other ∧
        other ≠ [true, false, true, true] ∧ other.length = 4) := by
  have outer : TwoPositions (coreLength 2) 3 4 := ⟨by decide, by decide, by decide, by decide, by decide⟩
  have single : TwoPositions (coreLength 1) 1 2 := ⟨by decide, by decide, by decide, by decide, by decide⟩
  have inner : TwoPositions (coreLength 4) 1 2 := ⟨by decide, by decide, by decide, by decide, by decide⟩
  have outside : coreLength 2 < 3 ^^^ 4 := by decide
  have insideSingle : 1 ^^^ 2 ≤ coreLength 1 := by decide
  have inside : 1 ^^^ 2 ≤ coreLength 4 := by decide
  have collapse : Collapses [true] 1 2 := by
    have ones : encodeCore [true] = [true, true, true] := by decide
    refine .inr fun position => ?_
    rw [ones]
    match position with
    | 0 | 1 | 2 | 3 => decide
    | _ + 4 => simp [HasOne]
  have other : ¬ Collapses [true, false, true, true] 1 2 := by
    rintro (zeros | ones)
    · exact absurd zeros (by decide)
    · exact absurd ((ones 1).mpr (.inl rfl)).2 (by decide)
  exact ⟨⟨outer, outside, (@decode_encode_damaged_twice [true, true] 3 4 outer).1 outside⟩,
    ⟨single, insideSingle, collapse, (@decode_encode_damaged_twice [true] 1 2 single).2.1 insideSingle collapse⟩,
    ⟨inner, inside, other,
      (@decode_encode_damaged_twice [true, false, true, true] 1 2 inner).2.2.1 inside other⟩⟩

end BeaconWatch.Hamming
