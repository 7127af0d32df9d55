import BeaconWatch.Proofs.Overflow.Reception

/-!
Sending and receiving are inverse: a framed payload is extracted whatever header stands before it
and whatever bytes follow it, and nothing is extracted that is not near a framed payload.
-/

set_option autoImplicit false

namespace BeaconWatch.Overflow

open BeaconWatch.Hamming

/-- A sent buffer with another header, and with bytes after it. -/
def rewrap (header sent suffix : Bytes) : Bytes :=
  header ++ sent.drop headerLength ++ suffix

theorem length_encode_block {n : Nat} {block : Bytes} (size : block.length = n + 1) :
    (encode (toBits .lsbFirst block)).length = codewordBits n := by
  rw [length_encode, length_toBits_block _ size]
  rfl

theorem length_sentinel_cons {n : Nat} {payload : Bytes} (size : payload.length = n) :
    (sentinel :: payload).length = n + 1 := by
  rw [List.length_cons, size]

theorem encodePayload?_eq {n : Nat} (small : n ≤ 2 ^ 60 - 9) (payload : Bytes) :
    encodePayload? n payload = some (encodePayload n payload) := by
  by_cases size : payload.length = n
  · have data : (toBits .lsbFirst (sentinel :: payload)).length ≤ 2 ^ 63 - 64 := by
      rw [length_toBits_block _ (length_sentinel_cons size)]
      exact dataBitCount_le small
    simp only [encodePayload?, encodePayload, if_pos size, encode?_eq data, frame, Option.bind_eq_bind,
      Option.bind_some]
  · simp [encodePayload?, encodePayload, size]

theorem encodePayload_eq_error_iff (n : Nat) (payload : Bytes) :
    (∃ error, encodePayload n payload = .error error) ↔ payload.length ≠ n := by
  by_cases size : payload.length = n <;> simp [encodePayload, size]

theorem rewrap_frame (header suffix data : Bytes) :
    rewrap header (frame blankHeader data) suffix =
      header ++ (ofBits .msbFirst (encode (toBits .lsbFirst data)) ++ suffix) := by
  rw [rewrap, frame, List.drop_left' (by simp [blankHeader]), List.append_assoc]

theorem wireBits_rewrap {n : Nat} {header block : Bytes} (headed : header.length = headerLength)
    (size : block.length = n + 1) (suffix : Bytes) :
    wireBits n (rewrap header (frame blankHeader block) suffix) = encode (toBits .lsbFirst block) := by
  rw [rewrap_frame, wireBits, List.drop_left' headed, toBits_append, toBits_ofBits, List.append_assoc,
    List.take_left' (length_encode_block size)]

theorem requiredLength_le_rewrap {n : Nat} {header block : Bytes} (headed : header.length = headerLength)
    (size : block.length = n + 1) (suffix : Bytes) :
    requiredLength n ≤ (rewrap header (frame blankHeader block) suffix).length := by
  rw [rewrap_frame, List.length_append, List.length_append, length_ofBits, length_encode_block size, headed,
    requiredLength]
  omega

theorem wireBits_frame {n : Nat} {block : Bytes} (size : block.length = n + 1) :
    wireBits n (frame blankHeader block) = encode (toBits .lsbFirst block) := by
  have whole : rewrap blankHeader (frame blankHeader block) [] = frame blankHeader block := by
    rw [rewrap_frame, List.append_nil, frame]
  rw [← whole]
  exact wireBits_rewrap (by simp [blankHeader]) size []

theorem encodePayload_eq_ok_iff (n : Nat) (payload sent : Bytes) :
    encodePayload n payload = .ok sent ↔ payload.length = n ∧ sent = frame blankHeader (sentinel :: payload) := by
  by_cases size : payload.length = n <;> simp [encodePayload, size, eq_comm]

theorem inspect_rewrap {n : Nat} {header payload sent : Bytes} (headed : header.length = headerLength)
    (encoded : encodePayload n payload = .ok sent) (suffix : Bytes) :
    inspect n (rewrap header sent suffix) = .ok (.payload payload) := by
  obtain ⟨size, rfl⟩ := (encodePayload_eq_ok_iff n payload sent).mp encoded
  have block := length_sentinel_cons size
  refine inspect_eq_payload_iff.mpr ⟨requiredLength_le_rewrap headed block suffix, size, ?_⟩
  rw [wireBits_rewrap headed block suffix]
  exact Near.refl _

theorem inspect_eq_payload_iff_sent {n : Nat} {raw payload : Bytes} :
    inspect n raw = .ok (.payload payload) ↔
      requiredLength n ≤ raw.length ∧
        ∃ sent, encodePayload n payload = .ok sent ∧ Near (wireBits n raw) (wireBits n sent) := by
  rw [inspect_eq_payload_iff]
  refine and_congr_right fun _ => ?_
  constructor
  · rintro ⟨size, near⟩
    have block := length_sentinel_cons size
    rw [← wireBits_frame block] at near
    exact ⟨_, (encodePayload_eq_ok_iff ..).mpr ⟨size, rfl⟩, near⟩
  · rintro ⟨sent, encoded, near⟩
    obtain ⟨size, rfl⟩ := (encodePayload_eq_ok_iff n payload sent).mp encoded
    have block := length_sentinel_cons size
    rw [wireBits_frame block] at near
    exact ⟨size, near⟩

-- An area captured from a broadcaster, and the payload in it.
def captured : Bytes :=
  [0x11, 0x22, 0x33, 0x44, 0x55, 0x66, 0x77, 0x88, 0xda, 0x51, 0x02, 0x02, 0xe2, 0x1a, 0x8e, 0x00]

def capturedPayload : Bytes :=
  [0x00, 0x02, 0x1e, 0x61, 197]

theorem encodePayload?_captured :
    encodePayload? 5 capturedPayload = some (.ok (blankHeader ++ (captured.drop headerLength).take 7)) := by
  decide +kernel

theorem rewrap_captured :
    rewrap (captured.take headerLength) (blankHeader ++ (captured.drop headerLength).take 7) [0x00] = captured := by
  decide

/-- A payload of the announced length is framed, and extracted again behind any header and before any
suffix; a payload of another length is refused. -/
theorem extract_framed {n : Nat} (small : n ≤ 2 ^ 60 - 9) (payload : Bytes) :
    ((∃ error, encodePayload? n payload = some (.error error)) ↔ payload.length ≠ n) ∧
      (payload.length = n → ∃ sent, encodePayload? n payload = some (.ok sent) ∧
        ∀ header suffix : Bytes, header.length = headerLength →
          inspect? n (rewrap header sent suffix) = some (.ok (.payload payload)) ∧
            extract? n (rewrap header sent suffix) = some (.ok (some payload))) := by
  rw [encodePayload?_eq small]
  constructor
  · simpa using encodePayload_eq_error_iff n payload
  · intro size
    have encoded := (encodePayload_eq_ok_iff n payload _).mpr ⟨size, rfl⟩
    refine ⟨_, congrArg some encoded, ?_⟩
    intro header suffix headed
    rw [inspect?_eq small, extract?_eq small, extract, inspect_rewrap headed encoded suffix]
    exact ⟨rfl, rfl⟩

theorem extract_captured :
    5 ≤ 2 ^ 60 - 9 ∧ capturedPayload.length = 5 ∧
      inspect? 5 captured = some (.ok (.payload capturedPayload)) ∧
        extract? 5 captured = some (.ok (some capturedPayload)) := by
  refine ⟨by decide, rfl, ?_⟩
  obtain ⟨sent, encoded, received⟩ := (extract_framed (n := 5) (by decide) capturedPayload).2 rfl
  rw [encodePayload?_captured] at encoded
  cases encoded
  have behind := received (captured.take headerLength) [0x00] rfl
  rw [rewrap_captured] at behind
  exact behind

/-- Nothing is invented: reception always answers, it calls malformed only what is too short, and what
it reports is near the codeword of what was reported. -/
theorem inspect_sound {n : Nat} (small : n ≤ 2 ^ 60 - 9) (raw : Bytes) :
    inspect? n raw = some (inspect n raw) ∧
      (∀ error, inspect? n raw = some (.error error) ↔
        raw.length < requiredLength n ∧ error = .malformedInput (requiredLength n) raw.length) ∧
      (∀ payload, inspect? n raw = some (.ok (.payload payload)) →
        payload.length = n ∧ ∃ sent, encodePayload? n payload = some (.ok sent) ∧
          Near (wireBits n raw) (wireBits n sent)) ∧
      (∀ found, inspect? n raw = some (.ok (.sentinelMismatch found)) →
        found ≠ sentinel ∧ ∃ rest : Bytes, rest.length = n ∧
          Near (wireBits n raw) (encode (toBits .lsbFirst (found :: rest)))) := by
  simp only [inspect?_eq small, encodePayload?_eq small, Option.some.injEq]
  refine ⟨trivial, inspect_eq_error_iff n raw, ?_, ?_⟩
  · intro payload found
    exact ⟨(inspect_eq_payload_iff.mp found).2.1, (inspect_eq_payload_iff_sent.mp found).2⟩
  · intro found mismatch
    exact (inspect_eq_sentinelMismatch_iff.mp mismatch).2

-- One buffer for each of the three answers: a payload, a foreign first byte, and too few bytes.
theorem inspect_sound_captured :
    5 ≤ 2 ^ 60 - 9 ∧
      (inspect? 5 captured = some (.ok (.payload capturedPayload)) ∧
        ∃ sent, encodePayload? 5 capturedPayload = some (.ok sent) ∧ Near (wireBits 5 captured) (wireBits 5 sent)) ∧
      (inspect? 5 (frame blankHeader (0x00 :: capturedPayload)) = some (.ok (.sentinelMismatch 0x00)) ∧
        ∃ rest : Bytes, rest.length = 5 ∧
          Near (wireBits 5 (frame blankHeader (0x00 :: capturedPayload))) (encode (toBits .lsbFirst (0x00 :: rest)))) ∧
      inspect? 5 (captured.take 14) = some (.error (.malformedInput 15 14)) := by
  have payload : inspect? 5 captured = some (.ok (.payload capturedPayload)) := by decide +kernel
  have foreign : inspect? 5 (frame blankHeader (0x00 :: capturedPayload)) = some (.ok (.sentinelMismatch 0x00)) := by
    decide +kernel
  obtain ⟨_, _, sound, _⟩ := inspect_sound (n := 5) (by decide) captured
  obtain ⟨_, _, _, mismatch⟩ := inspect_sound (n := 5) (by decide) (frame blankHeader (0x00 :: capturedPayload))
  obtain ⟨_, short, _, _⟩ := inspect_sound (n := 5) (by decide) (captured.take 14)
  refine ⟨by decide, ⟨payload, (sound _ payload).2⟩, ⟨foreign, (mismatch _ foreign).2⟩, ?_⟩
  exact (short _).mpr ⟨by decide, by decide⟩

end BeaconWatch.Overflow
