import BeaconWatch.Proofs.Intake.Checked
import BeaconWatch.Proofs.Overflow.Framing

/-!
The window of an overflow area. What is received depends on the bits of the codeword alone: the header, the
bits that fill up the codeword's last byte and the bytes behind it are not looked at.
-/

set_option autoImplicit false

namespace BeaconWatch.Overflow

open BeaconWatch.Hamming

theorem extract_of_inspect {n : Nat} {raw : Bytes} {found : Extraction} (inspected : inspect n raw = .ok found) :
    extract n raw = .ok found.payload? := by
  rw [extract, inspected]
  rfl

theorem Extractor.identify_of_inspect {extractor : Extractor} {raw : Bytes} {found : Extraction}
    (inspected : Overflow.inspect extractor.payloadBytes raw = .ok found) :
    extractor.identify raw = .ok (found.payload?.bind interpret) := by
  rw [identify, extract, extract_of_inspect inspected]
  rfl

-- What the window of an area holds.
def windowContent (n : Nat) (raw : Bytes) : Extraction :=
  .ofData (decode (wireBits n raw)).bits

theorem received_of_long {n : Nat} (small : n ≤ 2 ^ 60 - 9) {raw : Bytes} (long : requiredLength n ≤ raw.length) :
    inspect? n raw = some (.ok (windowContent n raw)) ∧
      extract? n raw = some (.ok (windowContent n raw).payload?) ∧
      Extractor.identify? ⟨n⟩ raw = some (.ok ((windowContent n raw).payload?.bind interpret)) := by
  have inspected : inspect n raw = .ok (windowContent n raw) := inspect_of_long long
  refine ⟨?_, ?_, ?_⟩
  · rw [inspect?_eq small, inspected]
  · rw [extract?_eq small, extract_of_inspect inspected]
  · rw [Extractor.identify?_eq small, Extractor.identify_of_inspect inspected]

/-- Two areas that are long enough are received alike if the bits of their codewords agree. -/
theorem received_of_window {n : Nat} (small : n ≤ 2 ^ 60 - 9) {first second : Bytes}
    (long : requiredLength n ≤ first.length) (longToo : requiredLength n ≤ second.length)
    (agree : wireBits n first = wireBits n second) :
    ∃ found,
      (inspect? n first = some (.ok found) ∧ inspect? n second = some (.ok found)) ∧
      (extract? n first = some (.ok found.payload?) ∧ extract? n second = some (.ok found.payload?)) ∧
      (Extractor.identify? ⟨n⟩ first = some (.ok (found.payload?.bind interpret)) ∧
        Extractor.identify? ⟨n⟩ second = some (.ok (found.payload?.bind interpret))) := by
  obtain ⟨inspected, extracted, identified⟩ := received_of_long small long
  have same : windowContent n second = windowContent n first := by rw [windowContent, windowContent, agree]
  have other := received_of_long small longToo
  rw [same] at other
  exact ⟨windowContent n first, ⟨inspected, other.1⟩, ⟨extracted, other.2.1⟩, ⟨identified, other.2.2⟩⟩

-- Another header, the bit behind the codeword, and more bytes behind that.
theorem received_of_window_captured :
    let other : Bytes := List.replicate 8 0xFF ++ [0xda, 0x51, 0x02, 0x02, 0xe2, 0x1a, 0x8f, 0x5A, 0x01]
    5 ≤ 2 ^ 60 - 9 ∧ requiredLength 5 ≤ captured.length ∧ requiredLength 5 ≤ other.length ∧
      wireBits 5 captured = wireBits 5 other ∧ inspect? 5 other = some (.ok (.payload capturedPayload)) ∧
      Extractor.identify? ⟨5⟩ other = some (.ok (some ⟨2, 7777, -59⟩)) := by
  intro other
  have long : requiredLength 5 ≤ captured.length := by decide
  have longToo : requiredLength 5 ≤ other.length := by decide
  have agree : wireBits 5 captured = wireBits 5 other := by decide
  have payload : inspect? 5 captured = some (.ok (.payload capturedPayload)) := by decide +kernel
  obtain ⟨found, ⟨here, there⟩, -, -, identified⟩ :=
    received_of_window (n := 5) (by decide) long longToo agree
  cases payload.symm.trans here
  exact ⟨by decide, long, longToo, agree, there, identified⟩

end BeaconWatch.Overflow
