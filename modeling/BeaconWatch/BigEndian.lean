import BeaconWatch.Bits

/-!
Two-byte words, high byte first. Splitting a word and joining two bytes are inverse to each other.
-/

set_option autoImplicit false

namespace BeaconWatch.BigEndian

def join (high low : UInt8) : UInt16 :=
  .ofNat (256 * high.toNat + low.toNat)

def high (word : UInt16) : UInt8 :=
  .ofNat (word.toNat / 256)

def low (word : UInt16) : UInt8 :=
  .ofNat (word.toNat % 256)

def split (word : UInt16) : Bytes :=
  [high word, low word]

@[simp] theorem join_high_low (word : UInt16) : join (high word) (low word) = word := by
  have bound := word.toNat_lt
  apply UInt16.toNat_inj.mp
  simp only [join, high, low, UInt16.toNat_ofNat', UInt8.toNat_ofNat']
  omega

@[simp] theorem high_join (h l : UInt8) : high (join h l) = h := by
  have hh := h.toNat_lt
  have hl := l.toNat_lt
  apply UInt8.toNat_inj.mp
  simp only [join, high, UInt16.toNat_ofNat', UInt8.toNat_ofNat']
  omega

@[simp] theorem low_join (h l : UInt8) : low (join h l) = l := by
  have hh := h.toNat_lt
  have hl := l.toNat_lt
  apply UInt8.toNat_inj.mp
  simp only [join, low, UInt16.toNat_ofNat', UInt8.toNat_ofNat']
  omega

end BeaconWatch.BigEndian
