import BeaconWatch.Bits
import BeaconWatch.Hamming.Sizes

/-!
Encoding. Data bits fill the positions of the core that are not powers of two, each parity bit makes
the parity of its group even, and the check bit says whether the core has a one at all.
-/

set_option autoImplicit false

namespace BeaconWatch.Hamming

def spreadFrom : Nat → Nat → Bits → Bits
  | _, 0, _ => []
  | position, count + 1, data =>
      if isPowerOfTwo position then
        false :: spreadFrom (position + 1) count data
      else
        match data with
        | [] => false :: spreadFrom (position + 1) count []
        | bit :: rest => bit :: spreadFrom (position + 1) count rest

@[simp] theorem length_spreadFrom (position count : Nat) (data : Bits) :
    (spreadFrom position count data).length = count := by
  induction count generalizing position data with
  | zero => rfl
  | succ count ih =>
    simp only [spreadFrom]
    split
    · simp [ih]
    · cases data <;> simp [ih]

-- The parity of the ones at positions of the group, the first bit standing at `position`.
def parityFrom (group : Nat) : Nat → Bits → Bool
  | _, [] => false
  | position, bit :: rest => (position.testBit group && bit) ^^ parityFrom group (position + 1) rest

/-- The parity of a group of the core: all positions with the group's binary digit set. -/
def groupParity (core : Bits) (group : Nat) : Bool :=
  parityFrom group 1 core

def setParity (core : Bits) (group : Nat) : Bits :=
  core.set (2 ^ group - 1) (groupParity core group)

@[simp] theorem length_setParity (core : Bits) (group : Nat) :
    (setParity core group).length = core.length := by
  simp [setParity]

-- The core of a codeword: data bits spread out, then one parity bit after another.
def encodeCore (data : Bits) : Bits :=
  (List.range (parityBitCount data.length)).foldl setParity
    (spreadFrom 1 (coreLength data.length) data)

def checkBit (bits : Bits) : Bool :=
  bits.any id

def encode (data : Bits) : Bits :=
  encodeCore data ++ [checkBit (encodeCore data)]

def encodeSamples (samples : List UInt8) : List UInt8 :=
  samplesOf (encode (lowBits samples))

/-! The same with sizes and shifts in words, every parity bit at a position of the core, and a data bit for every other
position. -/

-- The spread bits, and the data that is left over.
def spreadFrom? : Nat → Nat → Bits → Option (Bits × Bits)
  | _, 0, data => some ([], data)
  | position, count + 1, data =>
      if isPowerOfTwo position then
        (spreadFrom? (position + 1) count data).map fun (core, left) => (false :: core, left)
      else
        match data with
        | [] => none
        | bit :: rest => (spreadFrom? (position + 1) count rest).map fun (core, left) => (bit :: core, left)

def setParity? (core : Bits) (group : Nat) : Option Bits := do
  let position ← Word.powerOfTwo? group
  if position ≤ core.length then some (setParity core group) else none

def encode? (data : Bits) : Option Bits := do
  let parity ← parityBitCount? data.length
  let length ← Word.add? data.length parity
  let _ ← Word.add? length 1
  let core ← (List.range parity).foldlM setParity? (spreadFrom 1 length data)
  some (core ++ [checkBit core])

end BeaconWatch.Hamming
