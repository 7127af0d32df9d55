import BeaconWatch.Overflow.Frame
import BeaconWatch.Proofs.Bits
import BeaconWatch.Proofs.Hamming.Decoding
import BeaconWatch.Proofs.Overflow.Sizes

/-!
What the receiver makes of a raw buffer: it looks at the codeword's bits as they stand on the wire,
and it reports a block of bytes exactly when these bits are near the codeword of that block.
-/

set_option autoImplicit false

namespace BeaconWatch.Overflow

open BeaconWatch.Hamming

/-- The bits of the codeword in a raw buffer, each byte read from its most significant bit. -/
def wireBits (n : Nat) (raw : Bytes) : Bits :=
  (toBits .msbFirst (raw.drop headerLength)).take (codewordBits n)

theorem toBits_normalize (raw : Bytes) : toBits .lsbFirst (normalize raw) = toBits .msbFirst raw :=
  toBits_ofBits_of_dvd _ _ (length_toBits ..)

theorem receivedBits_eq_wireBits (n : Nat) (raw : Bytes) : receivedBits n raw = wireBits n raw := by
  rw [receivedBits, wireBits, toBits_drop, toBits_normalize, toBits_drop]

theorem length_wireBits {n : Nat} {raw : Bytes} (long : requiredLength n ≤ raw.length) :
    (wireBits n raw).length = codewordLength (dataBitCount n) := by
  have window : codewordBits n = codewordLength (dataBitCount n) := rfl
  simp only [requiredLength, headerLength] at long
  simp only [wireBits, List.length_take, length_toBits, List.length_drop, headerLength]
  omega

theorem length_toBits_block (o : BitOrder) {n : Nat} {block : Bytes} (size : block.length = n + 1) :
    (toBits o block).length = dataBitCount n := by
  rw [length_toBits, size, dataBitCount]

theorem ofBits_decode_eq_iff {n : Nat} {raw block : Bytes} (long : requiredLength n ≤ raw.length)
    (nonempty : block ≠ []) :
    ofBits .lsbFirst (decode (wireBits n raw)).bits = block ↔
      block.length = n + 1 ∧ Near (wireBits n raw) (encode (toBits .lsbFirst block)) := by
  constructor
  · rintro rfl
    have some : (decode (wireBits n raw)).bits ≠ [] := by
      intro none
      simp [none, ofBits, packBytes] at nonempty
    obtain ⟨size, near⟩ := (bits_decode_eq_iff (length_wireBits long) some).mp rfl
    rw [toBits_ofBits_of_dvd _ _ size, length_ofBits, size, dataBitCount]
    exact ⟨by omega, near⟩
  · rintro ⟨size, near⟩
    have some : toBits .lsbFirst block ≠ [] := by
      intro none
      have h := length_toBits .lsbFirst block
      rw [none, size] at h
      simp at h
    have data := length_toBits_block .lsbFirst size
    rw [(bits_decode_eq_iff (length_wireBits long) some).mpr ⟨data, near⟩, ofBits_toBits]

namespace Extraction

theorem ofData_eq_payload_iff (data : Bits) (bytes : Bytes) :
    ofData data = payload bytes ↔ ofBits .lsbFirst data = sentinel :: bytes := by
  rw [ofData]
  split
  case h_1 none => simp [none]
  case h_2 first rest some =>
    by_cases same : first = sentinel <;> simp [some, same]

theorem ofData_eq_sentinelMismatch_iff (data : Bits) (found : UInt8) :
    ofData data = sentinelMismatch found ↔
      found ≠ sentinel ∧ ∃ rest, ofBits .lsbFirst data = found :: rest := by
  rw [ofData]
  split
  case h_1 none => simp [none]
  case h_2 first rest some =>
    by_cases same : first = sentinel
    · subst same
      simp only [some, if_true, reduceCtorEq, List.cons.injEq, false_iff, not_and, not_exists]
      rintro other rest rfl
      exact absurd rfl other
    · simp only [some, same, if_false, sentinelMismatch.injEq, List.cons.injEq]
      constructor
      · rintro rfl
        exact ⟨same, rest, rfl, rfl⟩
      · rintro ⟨_, _, equal, _⟩
        exact equal

end Extraction

theorem inspect_of_long {n : Nat} {raw : Bytes} (long : requiredLength n ≤ raw.length) :
    inspect n raw = .ok (.ofData (decode (wireBits n raw)).bits) := by
  rw [inspect, if_neg (Nat.not_lt.mpr long), receivedBits_eq_wireBits]

theorem inspect_eq_error_iff (n : Nat) (raw : Bytes) (error : Error) :
    inspect n raw = .error error ↔
      raw.length < requiredLength n ∧ error = .malformedInput (requiredLength n) raw.length := by
  by_cases short : raw.length < requiredLength n
  · simp [inspect, short, eq_comm]
  · simp [inspect, short]

theorem inspect_eq_payload_iff {n : Nat} {raw payload : Bytes} :
    inspect n raw = .ok (.payload payload) ↔
      requiredLength n ≤ raw.length ∧ payload.length = n ∧
        Near (wireBits n raw) (encode (toBits .lsbFirst (sentinel :: payload))) := by
  by_cases long : requiredLength n ≤ raw.length
  · simp only [inspect_of_long long, Except.ok.injEq, Extraction.ofData_eq_payload_iff, long, true_and,
      ofBits_decode_eq_iff long (List.cons_ne_nil _ _), List.length_cons, Nat.add_right_cancel_iff]
  · simp [inspect, Nat.lt_of_not_le long, long]

theorem inspect_eq_sentinelMismatch_iff {n : Nat} {raw : Bytes} {found : UInt8} :
    inspect n raw = .ok (.sentinelMismatch found) ↔
      requiredLength n ≤ raw.length ∧ found ≠ sentinel ∧
        ∃ rest : Bytes, rest.length = n ∧ Near (wireBits n raw) (encode (toBits .lsbFirst (found :: rest))) := by
  by_cases long : requiredLength n ≤ raw.length
  · simp only [inspect_of_long long, Except.ok.injEq, Extraction.ofData_eq_sentinelMismatch_iff, long, true_and,
      ofBits_decode_eq_iff long (List.cons_ne_nil _ _), List.length_cons, Nat.add_right_cancel_iff]
  · simp [inspect, Nat.lt_of_not_le long, long]

theorem inspect?_eq {n : Nat} (small : n ≤ 2 ^ 60 - 9) (raw : Bytes) : inspect? n raw = some (inspect n raw) := by
  simp only [inspect?, requiredLength?_eq small, Option.bind_eq_bind, Option.bind_some]
  by_cases short : raw.length < requiredLength n
  · simp [short, inspect]
  · have long := Nat.le_of_not_lt short
    have cut : cutAt? (normalize raw) headerLength = some ((normalize raw).drop headerLength) := by
      have inside : headerLength ≤ raw.length := Nat.le_trans (Nat.le_add_right ..) long
      exact if_pos (by rwa [length_normalize])
    have body : (toBits .lsbFirst ((normalize raw).drop headerLength)).take (codewordBits n) = wireBits n raw :=
      receivedBits_eq_wireBits n raw
    have word : (wireBits n raw).length < 2 ^ 64 := by
      have size := codewordLength_lt (dataBitCount_le small)
      rw [length_wireBits long]
      omega
    simp [short, cut, codewordBits?_eq small, body, decode?_eq word, inspect_of_long long]

theorem extract?_eq {n : Nat} (small : n ≤ 2 ^ 60 - 9) (raw : Bytes) : extract? n raw = some (extract n raw) := by
  rw [extract?, inspect?_eq small]
  rfl

end BeaconWatch.Overflow
