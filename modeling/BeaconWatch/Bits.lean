import BeaconWatch.Word

/-!
Bytes as bits. A byte is read from either end, and a run of bits is packed into bytes eight at a
time; a last group that is short is filled with zeros after its bits.
-/

set_option autoImplicit false

namespace BeaconWatch

abbrev Bytes := List UInt8

abbrev Bits := List Bool

inductive BitOrder
  | msbFirst
  | lsbFirst
  deriving DecidableEq

namespace BitOrder

def opposite : BitOrder → BitOrder
  | msbFirst => lsbFirst
  | lsbFirst => msbFirst

@[simp] theorem opposite_opposite (o : BitOrder) : o.opposite.opposite = o := by
  cases o <;> rfl

-- The power of two that the bit at an index below eight stands for.
def exponent : BitOrder → Nat → Nat
  | msbFirst, index => 7 - index
  | lsbFirst, index => index

def bitsOfByte (o : BitOrder) (byte : UInt8) : Bits :=
  (List.range 8).map fun index => byte.toNat.testBit (o.exponent index)

@[simp] theorem length_bitsOfByte (o : BitOrder) (byte : UInt8) :
    (o.bitsOfByte byte).length = 8 := by
  simp [bitsOfByte]

def valueFrom (o : BitOrder) : Nat → Bits → Nat
  | _, [] => 0
  | index, bit :: rest => (if bit then 2 ^ o.exponent index else 0) + o.valueFrom (index + 1) rest

def byteOfBits (o : BitOrder) (group : Bits) : UInt8 :=
  .ofNat (o.valueFrom 0 group)

end BitOrder

def toBits (o : BitOrder) (bytes : Bytes) : Bits :=
  bytes.flatMap o.bitsOfByte

@[simp] theorem toBits_nil (o : BitOrder) : toBits o [] = [] := rfl

@[simp] theorem toBits_cons (o : BitOrder) (byte : UInt8) (bytes : Bytes) :
    toBits o (byte :: bytes) = o.bitsOfByte byte ++ toBits o bytes := rfl

@[simp] theorem toBits_append (o : BitOrder) (a b : Bytes) :
    toBits o (a ++ b) = toBits o a ++ toBits o b := by
  simp [toBits]

@[simp] theorem length_toBits (o : BitOrder) (bytes : Bytes) :
    (toBits o bytes).length = 8 * bytes.length := by
  induction bytes with
  | nil => rfl
  | cons byte bytes ih => simp [ih]; omega

def packBytes (o : BitOrder) : Nat → Bits → Bytes
  | 0, _ => []
  | count + 1, bits => o.byteOfBits (bits.take 8) :: packBytes o count (bits.drop 8)

@[simp] theorem length_packBytes (o : BitOrder) (count : Nat) (bits : Bits) :
    (packBytes o count bits).length = count := by
  induction count generalizing bits with
  | zero => rfl
  | succ count ih => simp [packBytes, ih]

def ofBits (o : BitOrder) (bits : Bits) : Bytes :=
  packBytes o ((bits.length + 7) / 8) bits

@[simp] theorem length_ofBits (o : BitOrder) (bits : Bits) :
    (ofBits o bits).length = (bits.length + 7) / 8 := by
  simp [ofBits]

-- Samples count by their low bit.
def lowBits (samples : List UInt8) : Bits :=
  samples.map fun sample => sample.toNat.testBit 0

@[simp] theorem length_lowBits (samples : List UInt8) :
    (lowBits samples).length = samples.length := by
  simp [lowBits]

-- Samples are written as zero or one.
def samplesOf (bits : Bits) : List UInt8 :=
  bits.map Bool.toUInt8

@[simp] theorem length_samplesOf (bits : Bits) : (samplesOf bits).length = bits.length := by
  simp [samplesOf]

end BeaconWatch
