import BeaconWatch.Hamming.Sizes

/-!
Sizes of an overflow area that carries a payload of `n` bytes: a header, then the codeword of the
sentinel and the payload, filled up to whole bytes.
-/

set_option autoImplicit false

namespace BeaconWatch.Overflow

def headerLength : Nat := 8

-- The largest payload whose codeword fits sixteen bytes together with the header.
def maxPayloadBytes : Nat := 6

def defaultPayloadBytes : Nat := 5

def dataBitCount (n : Nat) : Nat :=
  8 * (n + 1)

def windowBits (n : Nat) : Nat :=
  Hamming.coreLength (dataBitCount n)

def codewordBits (n : Nat) : Nat :=
  windowBits n + 1

def requiredLength (n : Nat) : Nat :=
  headerLength + (codewordBits n + 7) / 8

/-! The same sizes in words. -/

def windowBits? (n : Nat) : Option Nat := do
  let bytes ← Word.add? n 1
  let bits ← Word.mul? 8 bytes
  let parity ← Hamming.parityBitCount? bits
  Word.add? bits parity

def codewordBits? (n : Nat) : Option Nat := do
  let window ← windowBits? n
  Word.add? window 1

def requiredLength? (n : Nat) : Option Nat := do
  let codeword ← codewordBits? n
  let rounded ← Word.add? codeword 7
  Word.add? headerLength (rounded / 8)

end BeaconWatch.Overflow
