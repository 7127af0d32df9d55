import BeaconWatch.Hamming.Encode

/-!
Decoding. The groups of odd parity spell the position of a single damaged bit of the core; the check
bit is compared with the recovered data.
-/

set_option autoImplicit false

namespace BeaconWatch.Hamming

inductive Outcome
  | clean (data : Bits)
  | corrected (position : Nat) (data : Bits)
  | syndromeOutOfRange (syndrome : Nat)
  | checkMismatch
  deriving DecidableEq

namespace Outcome

-- The recovered data; empty when decoding failed.
def bits : Outcome → Bits
  | clean data | corrected _ data => data
  | syndromeOutOfRange _ | checkMismatch => []

def isOk : Outcome → Bool
  | clean _ | corrected _ _ => true
  | syndromeOutOfRange _ | checkMismatch => false

end Outcome

/-- The sum of the group weights `2 ^ group` over the first `groups` groups of odd parity. -/
def syndrome (core : Bits) (groups : Nat) : Nat :=
  (List.range groups).foldl
    (fun sum group => if groupParity core group then sum + 2 ^ group else sum) 0

def flip (core : Bits) (position : Nat) : Bits :=
  core.modify (position - 1) not

@[simp] theorem length_flip (core : Bits) (position : Nat) :
    (flip core position).length = core.length := by
  simp [flip]

-- The bits that do not stand at parity positions, the first bit standing at `position`.
def dataFrom : Nat → Bits → Bits
  | _, [] => []
  | position, bit :: rest =>
      if isPowerOfTwo position then dataFrom (position + 1) rest
      else bit :: dataFrom (position + 1) rest

def dataBits (core : Bits) : Bits :=
  dataFrom 1 core

def decodeCore (core : Bits) (check : Bool) (groups : Nat) : Outcome :=
  let position := syndrome core groups
  if position = 0 then
    if checkBit (dataBits core) = check then .clean (dataBits core) else .checkMismatch
  else if core.length < position then
    .syndromeOutOfRange position
  else
    let data := dataBits (flip core position)
    if checkBit data = check then .corrected position data else .checkMismatch

-- Decodes a codeword, its last bit being the check bit.
def decode (codeword : Bits) : Outcome :=
  match codeword.getLast? with
  | none => .checkMismatch
  | some check => decodeCore codeword.dropLast check (receiverGroupCount codeword.length)

@[simp] theorem decode_nil : decode [] = .checkMismatch := rfl

def decodeSamples (samples : List UInt8) : Outcome :=
  decode (lowBits samples)

/-! The same with the group weights and their sum in words. -/

def addWeight? (core : Bits) (sum group : Nat) : Option Nat := do
  let weight ← Word.powerOfTwo? group
  if groupParity core group then Word.add? sum weight else some sum

def syndrome? (core : Bits) (groups : Nat) : Option Nat :=
  (List.range groups).foldlM (addWeight? core) 0

def decode? (codeword : Bits) : Option Outcome :=
  (syndrome? codeword.dropLast (receiverGroupCount codeword.length)).map fun _ => decode codeword

end BeaconWatch.Hamming
