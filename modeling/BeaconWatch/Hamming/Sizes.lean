import BeaconWatch.Word

/-!
Sizes of a Hamming codeword. The core holds data bits and parity bits, the latter at the positions
that are powers of two (positions count from one), and one check bit follows it. The sender derives
the number of parity bits from the data, the receiver the number of parity groups from the length
of what it received.
-/

set_option autoImplicit false

namespace BeaconWatch.Hamming

def isPowerOfTwo (position : Nat) : Bool :=
  2 ^ position.log2 == position

def fits (dataLength parity : Nat) : Bool :=
  decide (dataLength + parity + 1 ≤ 2 ^ parity)

def searchParity (dataLength : Nat) : Nat → Nat → Nat
  | 0, parity => parity
  | steps + 1, parity =>
      if fits dataLength parity then parity else searchParity dataLength steps (parity + 1)

/-- Parity bits that protect so many data bits: the least `m` with `2 ^ m ≥ dataLength + m + 1`.
Two more than the logarithm always fits. -/
def parityBitCount (dataLength : Nat) : Nat :=
  searchParity dataLength (dataLength.log2 + 2) 0

def coreLength (dataLength : Nat) : Nat :=
  dataLength + parityBitCount dataLength

def codewordLength (dataLength : Nat) : Nat :=
  coreLength dataLength + 1

/-- Parity groups in a received codeword: the number of binary digits of its length. Groups past the
end of the core are empty. -/
def receiverGroupCount (codewordLength : Nat) : Nat :=
  if codewordLength = 0 then 0 else codewordLength.log2 + 1

-- The search of `parityBitCount` in words, from a given parity count.
def searchParity? (dataLength : Nat) : Nat → Nat → Option Nat
  | 0, _ => none
  | steps + 1, parity => do
      let power ← Word.powerOfTwo? parity
      let sum ← Word.add? dataLength parity
      let total ← Word.add? sum 1
      if power < total then searchParity? dataLength steps (parity + 1) else some parity

-- The parity count in words; the shift refuses the sixty-fifth step at the latest.
def parityBitCount? (dataLength : Nat) : Option Nat :=
  searchParity? dataLength 65 0

def codewordLength? (dataLength : Nat) : Option Nat := do
  let parity ← parityBitCount? dataLength
  let core ← Word.add? dataLength parity
  Word.add? core 1

end BeaconWatch.Hamming
