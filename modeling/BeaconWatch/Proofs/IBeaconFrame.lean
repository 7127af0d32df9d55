import BeaconWatch.Intake.Checked

/-!
Reading and writing iBeacon frames. A frame is read exactly from the bytes that it is written as, whatever follows
them; a body with the mark and fewer bytes is malformed, and any other body is no frame.
-/

set_option autoImplicit false

namespace BeaconWatch.IBeaconFrame

variable {body : Bytes} {frame : IBeaconFrame}

@[simp] theorem length_toBytes (frame : IBeaconFrame) : frame.toBytes.length = frameLength := by
  simp [toBytes, mark, BigEndian.split, frame.uuid.length_bytes, frameLength]

-- Behind the mark a frame has its sixteen bytes and its five.
theorem fields_cases (fields : Bytes) : (fields.length < 21 ∧ ofFields? fields = none) ∨
    ∃ (front : Bytes) (majorHigh majorLow minorHigh minorLow power : UInt8) (rest : Bytes), front.length = 16 ∧
      fields = front ++ majorHigh :: majorLow :: minorHigh :: minorLow :: power :: rest := by
  match behind : fields.drop 16 with
  | majorHigh :: majorLow :: minorHigh :: minorLow :: power :: rest =>
    have count := congrArg List.length behind
    simp only [List.length_drop, List.length_cons] at count
    refine .inr ⟨fields.take 16, majorHigh, majorLow, minorHigh, minorLow, power, rest, ?_, ?_⟩
    · rw [List.length_take]
      omega
    · rw [← behind, List.take_append_drop]
  | [] | [_] | [_, _] | [_, _, _] | [_, _, _, _] =>
    have count := congrArg List.length behind
    simp only [List.length_drop, List.length_cons, List.length_nil] at count
    refine .inl ⟨by omega, ?_⟩
    rw [ofFields?, behind]
    cases ProximityUuid.ofBytes? (fields.take 16) <;> rfl

theorem ofFields?_append {front : Bytes} (sixteen : front.length = 16)
    (majorHigh majorLow minorHigh minorLow power : UInt8) (rest : Bytes) :
    ofFields? (front ++ majorHigh :: majorLow :: minorHigh :: minorLow :: power :: rest) =
      some ⟨⟨front, sixteen⟩, BigEndian.join majorHigh majorLow, BigEndian.join minorHigh minorLow, power.toInt8⟩ := by
  have uuid : ProximityUuid.ofBytes? front = some ⟨front, sixteen⟩ := dif_pos sixteen
  simp [ofFields?, ← sixteen, uuid]

theorem toBytes_append (frame : IBeaconFrame) (rest : Bytes) : frame.toBytes ++ rest =
    mark ++ (frame.uuid.bytes ++ BigEndian.high frame.major :: BigEndian.low frame.major ::
      BigEndian.high frame.minor :: BigEndian.low frame.minor :: frame.txPower.toUInt8 :: rest) := by
  simp [toBytes, BigEndian.split]

theorem begins_with_mark (frame : IBeaconFrame) (rest : Bytes) : mark.isPrefixOf (frame.toBytes ++ rest) = true := by
  rw [toBytes_append, List.isPrefixOf_iff_prefix]
  exact List.prefix_append ..

theorem not_length_lt (frame : IBeaconFrame) (rest : Bytes) : ¬ (frame.toBytes ++ rest).length < frameLength := by
  simp

theorem parse_toBytes_append (frame : IBeaconFrame) (rest : Bytes) : parse (frame.toBytes ++ rest) = .ok (some frame) := by
  rw [parse, if_pos (begins_with_mark frame rest), toBytes_append, List.drop_left, ofFields?_append frame.uuid.length_bytes]
  simp

/-- What a body is read as: nothing without the mark, an error if it is too short, and else the frame it begins with. -/
theorem parse_cases (body : Bytes) : (¬ mark <+: body ∧ parse body = .ok none) ∨
    ((mark <+: body ∧ body.length < frameLength) ∧ parse body = .error (.malformedInput frameLength body.length)) ∨
    ∃ (frame : IBeaconFrame) (rest : Bytes), body = frame.toBytes ++ rest := by
  by_cases marked : mark <+: body
  next =>
    obtain ⟨fields, rfl⟩ := marked
    rcases fields_cases fields with
      ⟨short, none⟩ | ⟨front, majorHigh, majorLow, minorHigh, minorLow, power, rest, sixteen, rfl⟩
    next =>
      have size : (mark ++ fields).length < frameLength := by
        simp only [mark, List.length_append, List.length_cons, List.length_nil, frameLength]
        omega
      have malformed : parse (mark ++ fields) = .error (.malformedInput frameLength (mark ++ fields).length) := by
        simp [parse, none]
      exact .inr (.inl ⟨⟨List.prefix_append .., size⟩, malformed⟩)
    next =>
      refine .inr (.inr ⟨⟨⟨front, sixteen⟩, BigEndian.join majorHigh majorLow, BigEndian.join minorHigh minorLow,
        power.toInt8⟩, rest, ?_⟩)
      simp [toBytes, BigEndian.split]
  next =>
    have missing : ¬ mark.isPrefixOf body := by rwa [List.isPrefixOf_iff_prefix]
    exact .inl ⟨marked, by rw [parse, if_neg missing]⟩

theorem parse_eq_some_iff : parse body = .ok (some frame) ↔
    frameLength ≤ body.length ∧ body.take frameLength = frame.toBytes := by
  constructor
  next =>
    intro read
    rcases parse_cases body with ⟨-, other⟩ | ⟨-, malformed⟩ | ⟨written, rest, rfl⟩
    next => simp [other] at read
    next => simp [malformed] at read
    next =>
      obtain rfl : written = frame := by simpa [parse_toBytes_append] using read
      exact ⟨Nat.not_lt.mp (not_length_lt written rest), List.take_left' (length_toBytes written)⟩
  next =>
    intro ⟨_, front⟩
    have read := parse_toBytes_append frame (body.drop frameLength)
    rwa [← front, List.take_append_drop] at read

theorem parse_eq_error_iff {error : Error} : parse body = .error error ↔
    (mark <+: body ∧ body.length < frameLength) ∧ error = .malformedInput frameLength body.length := by
  rcases parse_cases body with ⟨unmarked, other⟩ | ⟨short, malformed⟩ | ⟨written, rest, rfl⟩
  next => simp [other, unmarked]
  next => simp [malformed, short, eq_comm]
  next => simp only [parse_toBytes_append, reduceCtorEq, not_length_lt, and_false, false_and]

theorem parse_eq_none_iff : parse body = .ok none ↔
    (¬ ∃ frame : IBeaconFrame, frameLength ≤ body.length ∧ body.take frameLength = frame.toBytes) ∧
      ¬ (mark <+: body ∧ body.length < frameLength) := by
  simp only [← parse_eq_some_iff]
  rcases parse_cases body with ⟨unmarked, other⟩ | ⟨short, malformed⟩ | ⟨written, rest, rfl⟩
  next => simp [other, unmarked]
  next => simp [malformed, short]
  next => simp [parse_toBytes_append]

/-! Every place that is read is there. -/

theorem parse?_toBytes_append (frame : IBeaconFrame) (rest : Bytes) :
    parse? (frame.toBytes ++ rest) = some (.ok (some frame)) := by
  have uuid : ProximityUuid.ofBytes? frame.uuid.bytes = some frame.uuid := ProximityUuid.ofBytes?_eq_some_iff.mpr rfl
  have sixteen := frame.uuid.length_bytes
  have place (tail : Bytes) {index : Nat} (outside : 16 ≤ index) :
      (frame.uuid.bytes ++ tail)[index]? = tail[index - 16]? := by
    rw [List.getElem?_append_right (by omega), sixteen]
  rw [parse?, begins_with_mark, if_neg (not_length_lt frame rest), toBytes_append]
  simp [mark, slice?, sixteen, uuid, place]

theorem parse?_eq (body : Bytes) : parse? body = some (parse body) := by
  rcases parse_cases body with ⟨unmarked, other⟩ | ⟨⟨marked, short⟩, malformed⟩ | ⟨frame, rest, rfl⟩
  next => simp [parse?, unmarked, other]
  next => simp [parse?, marked, short, malformed]
  next => rw [parse?_toBytes_append, parse_toBytes_append]

/-- Exactly the written frames are read, and as they were written; the mark of a frame without the rest of it is
malformed. -/
theorem parse?_exact :
    (∀ body : Bytes,
      (∀ frame, parse? body = some (.ok (some frame)) ↔ 23 ≤ body.length ∧ body.take 23 = frame.toBytes) ∧
      (∀ error, parse? body = some (.error error) ↔
        ([0x02, 0x15] <+: body ∧ body.length < 23) ∧ error = .malformedInput 23 body.length) ∧
      (parse? body = some (.ok none) ↔
        (¬ ∃ frame : IBeaconFrame, 23 ≤ body.length ∧ body.take 23 = frame.toBytes) ∧
          ¬ ([0x02, 0x15] <+: body ∧ body.length < 23)) ∧
      ∀ frame, parse? body = some (.ok (some frame)) → ∃ rest, body = frame.toBytes ++ rest) ∧
    ∀ (frame : IBeaconFrame) (rest : Bytes), parse? (frame.toBytes ++ rest) = some (.ok (some frame)) := by
  simp only [parse?_eq, Option.some.injEq]
  constructor
  next =>
    intro body
    refine ⟨fun frame => parse_eq_some_iff, fun error => parse_eq_error_iff, parse_eq_none_iff, ?_⟩
    intro frame read
    have front := (parse_eq_some_iff.mp read).2
    exact ⟨body.drop frameLength, by rw [← front, List.take_append_drop]⟩
  next =>
    intro frame rest
    exact parse_toBytes_append frame rest

end BeaconWatch.IBeaconFrame
