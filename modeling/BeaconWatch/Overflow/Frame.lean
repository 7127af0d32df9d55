import BeaconWatch.Bits
import BeaconWatch.Error
import BeaconWatch.Hamming.Decode
import BeaconWatch.Overflow.Sizes

/-!
The overflow area of an advertisement. A broadcaster writes a header and, most significant bit
first, the codeword of the sentinel and the payload, whose bytes enter it least significant bit
first. The receiver reports every byte reversed, so a raw buffer is reversed byte by byte before
the header is skipped.
-/

set_option autoImplicit false

namespace BeaconWatch.Overflow

/-- The byte ahead of every payload; another one belongs to another protocol. -/
def sentinel : UInt8 := 0xAA

-- Reverses the bits inside every byte.
def normalize (raw : Bytes) : Bytes :=
  ofBits .lsbFirst (toBits .msbFirst raw)

@[simp] theorem length_normalize (raw : Bytes) : (normalize raw).length = raw.length := by
  simp only [normalize, length_ofBits, length_toBits]
  omega

inductive Extraction
  | payload (bytes : Bytes)
  | decodeFailure
  | sentinelMismatch (found : UInt8)
  deriving DecidableEq

namespace Extraction

def payload? : Extraction → Option Bytes
  | payload bytes => some bytes
  | decodeFailure | sentinelMismatch _ => none

-- Recovered data, regrouped into bytes and held against the sentinel.
def ofData (data : Bits) : Extraction :=
  match ofBits .lsbFirst data with
  | [] => decodeFailure
  | first :: rest => if first = sentinel then payload rest else sentinelMismatch first

@[simp] theorem ofData_nil : ofData [] = decodeFailure := rfl

end Extraction

def receivedBits (n : Nat) (raw : Bytes) : Bits :=
  (toBits .lsbFirst ((normalize raw).drop headerLength)).take (codewordBits n)

/-- Extracts a payload of `n` bytes and says what was found; a buffer too short for the codeword is
malformed. -/
def inspect (n : Nat) (raw : Bytes) : Except Error Extraction :=
  if raw.length < requiredLength n then
    .error (.malformedInput (requiredLength n) raw.length)
  else
    .ok (.ofData (Hamming.decode (receivedBits n raw)).bits)

def extract (n : Nat) (raw : Bytes) : Except Error (Option Bytes) :=
  (inspect n raw).map Extraction.payload?

def frame (header data : Bytes) : Bytes :=
  header ++ ofBits .msbFirst (Hamming.encode (toBits .lsbFirst data))

def blankHeader : Bytes :=
  List.replicate headerLength 0

def encodePayload (n : Nat) (payload : Bytes) : Except Error Bytes :=
  if payload.length = n then .ok (frame blankHeader (sentinel :: payload))
  else .error (.payloadLength n payload.length)

/-! The same with sizes in words; a buffer can be cut only at a place inside it. Memory is not
bounded. -/

def cutAt? (bytes : Bytes) (start : Nat) : Option Bytes :=
  if start ≤ bytes.length then some (bytes.drop start) else none

def inspect? (n : Nat) (raw : Bytes) : Option (Except Error Extraction) := do
  let needed ← requiredLength? n
  if raw.length < needed then
    some (.error (.malformedInput needed raw.length))
  else
    let body ← cutAt? (normalize raw) headerLength
    let length ← codewordBits? n
    let outcome ← Hamming.decode? ((toBits .lsbFirst body).take length)
    some (.ok (.ofData outcome.bits))

def extract? (n : Nat) (raw : Bytes) : Option (Except Error (Option Bytes)) :=
  (inspect? n raw).map fun found => found.map Extraction.payload?

def encodePayload? (n : Nat) (payload : Bytes) : Option (Except Error Bytes) :=
  if payload.length = n then do
    let codeword ← Hamming.encode? (toBits .lsbFirst (sentinel :: payload))
    some (.ok (blankHeader ++ ofBits .msbFirst codeword))
  else
    some (.error (.payloadLength n payload.length))

end BeaconWatch.Overflow
