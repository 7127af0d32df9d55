import BeaconWatch.Hamming.Decode

/-!
The parities of a core's groups are the binary digits of one number, the exclusive or of the positions
of its ones, so that the receiver's sum of weights spells that number.
-/

set_option autoImplicit false

namespace BeaconWatch.Hamming

def positionsFrom : Nat → Bits → Nat
  | _, [] => 0
  | position, bit :: rest => (if bit then position else 0) ^^^ positionsFrom (position + 1) rest

/-- The exclusive or of the positions where a core has a one. -/
def positions (core : Bits) : Nat :=
  positionsFrom 1 core

theorem parityFrom_eq_testBit (group position : Nat) (core : Bits) :
    parityFrom group position core = (positionsFrom position core).testBit group := by
  induction core generalizing position with
  | nil => simp [parityFrom, positionsFrom]
  | cons bit rest ih => cases bit <;> simp [parityFrom, positionsFrom, ih]

theorem groupParity_eq_testBit (core : Bits) (group : Nat) :
    groupParity core group = (positions core).testBit group :=
  parityFrom_eq_testBit group 1 core

theorem positionsFrom_lt (position : Nat) (core : Bits) {width : Nat}
    (bound : position + core.length ≤ 2 ^ width) : positionsFrom position core < 2 ^ width := by
  induction core generalizing position with
  | nil => exact Nat.two_pow_pos width
  | cons bit rest ih =>
    simp only [List.length_cons] at bound
    apply Nat.xor_lt_two_pow
    · split <;> omega
    · exact ih _ (by omega)

theorem positions_lt (core : Bits) {width : Nat} (bound : core.length < 2 ^ width) :
    positions core < 2 ^ width :=
  positionsFrom_lt 1 core (by omega)

theorem weights_sum (value groups : Nat) :
    (List.range groups).foldl
      (fun sum group => if value.testBit group then sum + 2 ^ group else sum) 0 = value % 2 ^ groups := by
  induction groups with
  | zero => simp [Nat.mod_one]
  | succ groups ih =>
    rw [List.range_succ, List.foldl_append, ih, Nat.mod_pow_succ]
    have bit := Nat.testBit_eq_decide_div_mod_eq (x := value) (i := groups)
    rcases Nat.mod_two_eq_zero_or_one (value / 2 ^ groups) with even | odd
    · simp [bit, even]
    · simp [bit, odd]

theorem syndrome_eq_positions (core : Bits) {groups : Nat} (bound : core.length < 2 ^ groups) :
    syndrome core groups = positions core := by
  simp only [syndrome, groupParity_eq_testBit, weights_sum]
  exact Nat.mod_eq_of_lt (positions_lt core bound)

theorem positionsFrom_append (position : Nat) (a b : Bits) :
    positionsFrom position (a ++ b) = positionsFrom position a ^^^ positionsFrom (position + a.length) b := by
  induction a generalizing position with
  | nil => simp [positionsFrom]
  | cons bit rest ih =>
    have next : position + (bit :: rest).length = position + 1 + rest.length := by
      simp only [List.length_cons]
      omega
    rw [List.cons_append, positionsFrom, positionsFrom, ih, next, Nat.xor_assoc]

theorem positionsFrom_modify (position : Nat) (core : Bits) {index : Nat} (inside : index < core.length) :
    positionsFrom position (core.modify index not) =
      positionsFrom position core ^^^ (position + index) := by
  induction core generalizing position index with
  | nil => simp at inside
  | cons bit rest ih =>
    cases index with
    | zero =>
      cases bit with
      | false => simp [positionsFrom, Nat.xor_comm]
      | true =>
        rw [List.modify_zero_cons, Bool.not_true, positionsFrom, positionsFrom, if_pos rfl, if_neg Bool.false_ne_true,
          Nat.add_zero position, Nat.zero_xor, Nat.xor_comm position, Nat.xor_assoc, Nat.xor_self, Nat.xor_zero]
    | succ index =>
      simp only [List.length_cons] at inside
      have next : position + 1 + index = position + (index + 1) := by omega
      simp [positionsFrom, ih (position + 1) (show index < rest.length by omega), next, Nat.xor_assoc]

theorem positions_flip (core : Bits) {position : Nat} (positive : 0 < position)
    (inside : position ≤ core.length) : positions (flip core position) = positions core ^^^ position := by
  have back : 1 + (position - 1) = position := by omega
  have h := positionsFrom_modify 1 core (show position - 1 < core.length by omega)
  rw [back] at h
  exact h

end BeaconWatch.Hamming
