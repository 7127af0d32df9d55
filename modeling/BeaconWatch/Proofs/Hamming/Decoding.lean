import BeaconWatch.Proofs.Hamming.Codewords

/-!
Decoding answers with data exactly when the received word has the check bit of the data's codeword and
differs from it in at most one other bit.
-/

set_option autoImplicit false

namespace BeaconWatch.Hamming

def mismatches : Bits → Bits → Nat
  | x :: as, y :: bs => (if x = y then 0 else 1) + mismatches as bs
  | _, _ => 0

@[simp] theorem mismatches_self (bits : Bits) : mismatches bits bits = 0 := by
  induction bits with
  | nil => rfl
  | cons bit rest ih => simp [mismatches, ih]

theorem mismatches_comm (a b : Bits) : mismatches a b = mismatches b a := by
  induction a generalizing b with
  | nil => cases b <;> rfl
  | cons x as ih => cases b <;> simp [mismatches, ih, eq_comm]

theorem mismatches_flip (bits : Bits) (position : Nat) : mismatches bits (flip bits position) ≤ 1 := by
  rw [flip]
  generalize position - 1 = index
  induction bits generalizing index with
  | nil => simp [mismatches]
  | cons bit rest ih => cases index <;> simp [mismatches, ih]

theorem eq_of_mismatches_eq_zero {a b : Bits} (length : a.length = b.length) (none : mismatches a b = 0) :
    a = b := by
  induction a generalizing b with
  | nil => exact (List.length_eq_zero_iff.mp length.symm).symm
  | cons x as ih =>
    cases b with
    | nil => simp at length
    | cons y bs =>
      by_cases same : x = y
      · rw [same, ih (by simpa using length) (by simpa [mismatches, same] using none)]
      · simp [mismatches, same] at none

theorem mismatches_le_one {a b : Bits} (length : a.length = b.length) (close : mismatches a b ≤ 1) :
    a = b ∨ ∃ position, 0 < position ∧ position ≤ b.length ∧ a = flip b position := by
  induction a generalizing b with
  | nil => exact .inl (List.length_eq_zero_iff.mp length.symm).symm
  | cons x as ih =>
    cases b with
    | nil => simp at length
    | cons y bs =>
      have short : as.length = bs.length := by simpa using length
      by_cases same : x = y
      · subst y
        rcases ih short (by simpa [mismatches] using close) with rfl | ⟨position, positive, inside, rfl⟩
        · exact .inl rfl
        · refine .inr ⟨position + 1, by omega, by simpa using inside, ?_⟩
          obtain ⟨index, rfl⟩ := Nat.exists_eq_add_of_lt positive
          simp [flip]
      · have rest : mismatches as bs = 0 := by
          simp only [mismatches, same, if_false] at close
          omega
        obtain rfl := eq_of_mismatches_eq_zero short rest
        refine .inr ⟨1, by omega, by simp, ?_⟩
        cases x <;> cases y <;> simp_all [flip]

/-- The received word has the sent one's check bit and differs from it in at most one core bit. -/
structure Near (received sent : Bits) : Prop where
  length_eq : received.length = sent.length
  check_eq : received.getLast? = sent.getLast?
  core_le : mismatches received.dropLast sent.dropLast ≤ 1

theorem Near.refl (word : Bits) : Near word word :=
  ⟨rfl, rfl, by simp⟩

def repair (core : Bits) : Bits :=
  if positions core = 0 then core else flip core (positions core)

@[simp] theorem length_repair (core : Bits) : (repair core).length = core.length := by
  rw [repair]
  split <;> simp

theorem mismatches_repair (core : Bits) : mismatches core (repair core) ≤ 1 := by
  rw [repair]
  split
  · simp
  · exact mismatches_flip core _

theorem positions_repair {core : Bits} (inside : positions core ≤ core.length) :
    positions (repair core) = 0 := by
  rw [repair]
  split
  case isTrue clean => exact clean
  case isFalse damaged => rw [positions_flip core (Nat.pos_of_ne_zero damaged) inside, Nat.xor_self]

theorem flip_flip (core : Bits) (position : Nat) : flip (flip core position) position = core := by
  have twice : not ∘ not = id := funext Bool.not_not
  rw [flip, flip, List.modify_modify_eq, twice, List.modify_id]

theorem repair_of_near {core sent : Bits} (length : core.length = sent.length) (even : positions sent = 0)
    (close : mismatches core sent ≤ 1) : positions core ≤ core.length ∧ repair core = sent := by
  rcases mismatches_le_one length close with rfl | ⟨position, positive, inside, rfl⟩
  · simp [repair, even]
  · have spelled : positions (flip sent position) = position := by
      rw [positions_flip sent positive inside, even, Nat.zero_xor]
    have damaged : position ≠ 0 := by omega
    simp [repair, spelled, inside, damaged, flip_flip]

theorem decode_append (core : Bits) (check : Bool) :
    decode (core ++ [check]) =
      if core.length < positions core then .syndromeOutOfRange (positions core)
      else if checkBit (dataBits (repair core)) = check then
        if positions core = 0 then .clean (dataBits core)
        else .corrected (positions core) (dataBits (repair core))
      else .checkMismatch := by
  have groups : core.length < 2 ^ receiverGroupCount (core ++ [check]).length := by
    have h := lt_receiverGroupCount (core ++ [check]).length
    have grown : (core ++ [check]).length = core.length + 1 := by simp
    omega
  simp only [decode, List.getLast?_concat, List.dropLast_concat, decodeCore,
    syndrome_eq_positions core groups, repair]
  by_cases clean : positions core = 0
  · simp [clean]
  · by_cases far : core.length < positions core <;> simp [clean, far]

theorem bits_decode_append (core : Bits) (check : Bool) :
    (decode (core ++ [check])).bits =
      if positions core ≤ core.length ∧ checkBit (dataBits (repair core)) = check then
        dataBits (repair core)
      else [] := by
  rw [decode_append]
  by_cases far : core.length < positions core
  · simp [far, Outcome.bits, Nat.not_le.mpr far]
  · have inside := Nat.le_of_not_lt far
    by_cases agrees : checkBit (dataBits (repair core)) = check
    · by_cases clean : positions core = 0
      · simp only [repair, clean, if_true] at agrees ⊢
        simp [agrees, Outcome.bits]
      · simp [far, inside, agrees, clean, Outcome.bits]
    · simp [far, agrees, Outcome.bits]

theorem exists_core_check {word : Bits} {length : Nat} (size : word.length = length + 1) :
    ∃ core check, core.length = length ∧ word = core ++ [check] := by
  have nonempty : word ≠ [] := by
    rintro rfl
    simp at size
  refine ⟨word.dropLast, word.getLast nonempty, ?_, (List.dropLast_concat_getLast nonempty).symm⟩
  rw [List.length_dropLast, size, Nat.add_sub_cancel]

theorem bits_decode_eq_iff {received data : Bits} {dataLength : Nat}
    (length : received.length = codewordLength dataLength) (nonempty : data ≠ []) :
    (decode received).bits = data ↔ data.length = dataLength ∧ Near received (encode data) := by
  obtain ⟨core, check, coreSize, rfl⟩ := exists_core_check length
  rw [bits_decode_append]
  constructor
  · intro decoded
    split at decoded
    case isFalse => exact absurd decoded.symm nonempty
    case isTrue accepted =>
      obtain ⟨inside, agrees⟩ := accepted
      have codeword := eq_encodeCore (by rw [length_repair, coreSize]) (positions_repair inside)
      rw [decoded] at codeword agrees
      have size : data.length = dataLength := by
        rw [← decoded, length_dataBits_of_coreLength (by rw [length_repair, coreSize])]
      refine ⟨size, ?_, ?_, ?_⟩
      · simp [encode, coreSize, size]
      · simp [encode, agrees]
      · simpa [encode, ← codeword] using mismatches_repair core
  · rintro ⟨rfl, near⟩
    have close : mismatches core (encodeCore data) ≤ 1 := by simpa [encode] using near.core_le
    have agrees : check = checkBit data := by simpa [encode] using near.check_eq
    obtain ⟨inside, repaired⟩ := repair_of_near (by simp [coreSize]) (positions_encodeCore data) close
    simp [inside, repaired, agrees]

theorem syndrome_succ (core : Bits) (groups : Nat) :
    syndrome core (groups + 1) =
      if groupParity core groups then syndrome core groups + 2 ^ groups else syndrome core groups := by
  simp only [syndrome, List.range_succ, List.foldl_append, List.foldl_cons, List.foldl_nil]

theorem syndrome?_succ (core : Bits) (groups : Nat) :
    syndrome? core (groups + 1) = (syndrome? core groups).bind fun sum => addWeight? core sum groups := by
  rw [syndrome?, syndrome?, List.range_succ, List.foldlM_append]
  simp

theorem syndrome_lt (core : Bits) (groups : Nat) : syndrome core groups < 2 ^ groups := by
  simp only [syndrome, groupParity_eq_testBit, weights_sum]
  exact Nat.mod_lt _ (Nat.two_pow_pos _)

theorem syndrome?_eq (core : Bits) {groups : Nat} (bound : groups ≤ 64) :
    syndrome? core groups = some (syndrome core groups) := by
  induction groups with
  | zero => rfl
  | succ groups ih =>
    have shift := Word.powerOfTwo?_of_lt (show groups < 64 from bound)
    have below := syndrome_lt core groups
    have weight : 2 ^ groups ≤ 2 ^ 63 := Nat.pow_le_pow_right (by omega) (by omega)
    have sum := Word.add?_of_lt (show syndrome core groups + 2 ^ groups < 2 ^ 64 by omega)
    rw [syndrome?_succ, syndrome_succ, ih (by omega)]
    simp only [Option.bind_some, addWeight?, shift, Option.bind_eq_bind, sum]
    split <;> rfl

theorem decode?_eq {codeword : Bits} (word : codeword.length < 2 ^ 64) :
    decode? codeword = some (decode codeword) := by
  rw [decode?, syndrome?_eq _ ((receiverGroupCount_le_iff _ _).mpr word)]
  rfl

end BeaconWatch.Hamming
