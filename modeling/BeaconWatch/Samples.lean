import BeaconWatch.Bits

/-!
Bytes and samples. A bit of a byte is read by a shift and a mask, and written by a mask, a shift and an or; samples are
packed eight at a time until none is left.
-/

set_option autoImplicit false

namespace BeaconWatch

namespace BitOrder

-- A shift by eight or more would wrap; no index below eight asks for one.
def shift (o : BitOrder) (index : Nat) : UInt8 :=
  .ofNat (o.exponent index)

def readSample (o : BitOrder) (byte : UInt8) (index : Nat) : UInt8 :=
  (byte >>> o.shift index) &&& 1

def writeSample (o : BitOrder) (byte : UInt8) (index : Nat) (sample : UInt8) : UInt8 :=
  byte ||| ((sample &&& 1) <<< o.shift index)

def samplesOfByte (o : BitOrder) (byte : UInt8) : List UInt8 :=
  (List.range 8).map (o.readSample byte)

-- Writes samples into a byte, one index after another.
def writeFrom (o : BitOrder) : Nat → UInt8 → List UInt8 → UInt8
  | _, byte, [] => byte
  | index, byte, sample :: rest => o.writeFrom (index + 1) (o.writeSample byte index sample) rest

end BitOrder

def toSamples (o : BitOrder) (bytes : Bytes) : List UInt8 :=
  bytes.flatMap o.samplesOfByte

def ofSamples (o : BitOrder) : List UInt8 → Bytes
  | [] => []
  | sample :: rest =>
      o.writeFrom 0 0 ((sample :: rest).take 8) :: ofSamples o ((sample :: rest).drop 8)
termination_by samples => samples.length

end BeaconWatch
