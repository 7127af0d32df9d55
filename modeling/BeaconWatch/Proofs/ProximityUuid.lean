import Mathlib.Algebra.GroupWithZero.Nat
import BeaconWatch.Proofs.Hex

/-!
The text of a UUID. The reader takes the hyphens out wherever they are and counts what is left; together with its
other checks this leaves the canonical texts and no others.
-/

set_option autoImplicit false

namespace BeaconWatch.ProximityUuid

variable {text : String} {bytes digits : Bytes} {uuid : ProximityUuid}

/-! Texts and their bytes. -/

theorem utf8_inj {other : String} : utf8 text = utf8 other ↔ text = other := by
  rw [utf8, utf8, Array.toList_inj, ← ByteArray.ext_iff, String.toUTF8_eq_toByteArray, String.toUTF8_eq_toByteArray,
    String.toByteArray_inj]

theorem utf8_ofList (chars : List Char) : utf8 (.ofList chars) = chars.flatMap String.utf8EncodeChar := by
  rw [utf8, String.toUTF8_eq_toByteArray, String.toByteArray_ofList, List.utf8Encode, List.toList_data_toByteArray]

-- A character of ASCII is one byte.
theorem utf8_ofList_of_ascii {chars : List Char} (ascii : ∀ char ∈ chars, char.toNat < 128) :
    utf8 (.ofList chars) = chars.map Char.toUInt8 := by
  rw [utf8_ofList]
  induction chars with
  | nil => rfl
  | cons char rest ih =>
    have single : char.utf8Size = 1 := Char.utf8Size_eq_one_iff.mpr (Nat.le_of_lt_succ (ascii char (by simp)))
    rw [List.flatMap_cons, String.utf8EncodeChar_eq_singleton single,
      ih fun other member => ascii other (by simp [member])]
    rfl

theorem utf8_ofList_ofUInt8 (ascii : ∀ byte ∈ bytes, byte.toNat < 128) :
    utf8 (.ofList (bytes.map Char.ofUInt8)) = bytes := by
  rw [utf8_ofList_of_ascii]
  · rw [List.map_map]
    exact (List.map_congr_left fun byte _ => Hex.toUInt8_ofUInt8 byte).trans (List.map_id bytes)
  · intro char member
    obtain ⟨byte, inside, rfl⟩ := List.mem_map.mp member
    exact ascii byte inside

theorem fromUTF8?_utf8 (text : String) : String.fromUTF8? ⟨(utf8 text).toArray⟩ = some text := by
  have valid : ByteArray.IsValidUTF8 text.toByteArray := text.isValidUTF8
  rw [utf8, Array.toArray_toList, String.toUTF8_eq_toByteArray, String.fromUTF8?, dif_pos valid]
  rfl

/-! Lists with separators in them. The groups before the separators have given lengths, the last one has not. -/

section

variable {α : Type} {separator : α} {groups : List Nat} {inner whole : List α}

def separated (separator : α) : List Nat → List α → List α
  | [], inner => inner
  | size :: groups, inner => inner.take size ++ separator :: separated separator groups (inner.drop size)

-- The places of the separators, and what is at the others.
def sites : List Nat → List Nat
  | [] => []
  | size :: groups => size :: (sites groups).map (size + 1 + ·)

def between : List Nat → List α → List α
  | [], whole => whole
  | size :: groups, whole => whole.take size ++ between groups (whole.drop (size + 1))

theorem length_separated (separator : α) (groups : List Nat) (inner : List α) :
    (separated separator groups inner).length = inner.length + groups.length := by
  induction groups generalizing inner with
  | nil => rfl
  | cons size groups ih =>
    simp only [separated, List.length_append, List.length_cons, ih, List.length_take, List.length_drop]
    omega

theorem map_separated {β : Type} (f : α → β) :
    (separated separator groups inner).map f = separated (f separator) groups (inner.map f) := by
  induction groups generalizing inner with
  | nil => rfl
  | cons size groups ih => simp only [separated, List.map_append, List.map_cons, ih, List.map_take, List.map_drop]

theorem filter_separated {kept : α → Bool} (dropped : kept separator = false) :
    (separated separator groups inner).filter kept = inner.filter kept := by
  induction groups generalizing inner with
  | nil => rfl
  | cons size groups ih =>
    rw [separated, List.filter_append, List.filter_cons_of_neg (by simp [dropped]), ih, ← List.filter_append,
      List.take_append_drop]

theorem mem_of_mem_separated {element : α} (member : element ∈ separated separator groups inner) :
    element = separator ∨ element ∈ inner := by
  induction groups generalizing inner with
  | nil => exact .inr member
  | cons size groups ih =>
    rcases List.mem_append.mp member with front | behind
    · exact .inr (List.mem_of_mem_take front)
    · rcases List.mem_cons.mp behind with same | later
      · exact .inl same
      · exact (ih later).imp_right List.mem_of_mem_drop

theorem between_separated (enough : groups.sum ≤ inner.length) :
    between groups (separated separator groups inner) = inner := by
  induction groups generalizing inner with
  | nil => rfl
  | cons size groups ih =>
    rw [List.sum_cons] at enough
    have front : (inner.take size).length = size := List.length_take_of_le (by omega)
    have behind : groups.sum ≤ (inner.drop size).length := by
      rw [List.length_drop]
      omega
    rw [between, separated, List.take_left' front, List.drop_append, List.drop_eq_nil_of_le (by omega), front,
      Nat.add_sub_cancel_left, List.drop_one, List.tail_cons, List.nil_append, ih behind, List.take_append_drop]

theorem getElem?_separated (enough : groups.sum ≤ inner.length) :
    ∀ site ∈ sites groups, (separated separator groups inner)[site]? = some separator := by
  induction groups generalizing inner with
  | nil => simp [sites]
  | cons size groups ih =>
    rw [List.sum_cons] at enough
    have front : (inner.take size).length = size := List.length_take_of_le (by omega)
    have behind : groups.sum ≤ (inner.drop size).length := by
      rw [List.length_drop]
      omega
    intro site member
    rcases List.mem_cons.mp member with rfl | later
    · simp [separated, front]
    · obtain ⟨place, inside, rfl⟩ := List.mem_map.mp later
      rw [separated, List.getElem?_append_right (by omega), front, show size + 1 + place - size = place + 1 by omega,
        List.getElem?_cons_succ]
      exact ih behind place inside

theorem separated_between (places : ∀ site ∈ sites groups, whole[site]? = some separator) :
    separated separator groups (between groups whole) = whole := by
  induction groups generalizing whole with
  | nil => rfl
  | cons size groups ih =>
    obtain ⟨inside, here⟩ := List.getElem?_eq_some_iff.mp (places size List.mem_cons_self)
    have front : (whole.take size).length = size := List.length_take_of_le (Nat.le_of_lt inside)
    have later : ∀ site ∈ sites groups, (whole.drop (size + 1))[site]? = some separator := by
      intro site member
      rw [List.getElem?_drop]
      exact places _ (List.mem_cons_of_mem _ (List.mem_map_of_mem member))
    rw [separated, between, List.take_left' front, List.drop_left' front, ih later, ← here,
      ← List.drop_eq_getElem_cons, List.take_append_drop]

theorem mem_sites_cons_iff {size site : Nat} :
    site ∈ sites (size :: groups) ↔ site = size ∨ ∃ place ∈ sites groups, size + 1 + place = site := by
  rw [sites, List.mem_cons, List.mem_map]

theorem mem_between_iff {element : α} :
    element ∈ between groups whole ↔ ∃ index, index ∉ sites groups ∧ whole[index]? = some element := by
  induction groups generalizing whole with
  | nil => simp [between, sites, List.mem_iff_getElem?]
  | cons size groups ih =>
    have inFront : element ∈ whole.take size ↔
        ∃ index, (if index < size then whole[index]? else none) = some element := by
      simp only [List.mem_iff_getElem?, List.getElem?_take]
    simp only [between, List.mem_append, inFront, ih, List.getElem?_drop, mem_sites_cons_iff]
    constructor
    · rintro (⟨index, here⟩ | ⟨index, outside, here⟩)
      · have front : index < size := by
          by_contra behind
          rw [if_neg behind] at here
          cases here
        refine ⟨index, ?_, (if_pos front).symm.trans here⟩
        rintro (same | ⟨place, -, same⟩) <;> omega
      · refine ⟨_, ?_, here⟩
        rintro (same | ⟨place, inside, same⟩)
        · omega
        · have : place = index := by omega
          exact outside (this ▸ inside)
    · rintro ⟨index, outside, here⟩
      rcases Nat.lt_trichotomy index size with front | same | behind
      · exact .inl ⟨index, (if_pos front).trans here⟩
      · exact absurd (.inl same) outside
      · have place : size + 1 + (index - (size + 1)) = index := by omega
        exact .inr ⟨index - (size + 1), fun inside => outside (.inr ⟨_, inside, place⟩), by rwa [place]⟩

end

/-! Canonical texts. -/

/-- Thirty-six bytes: hyphens at four places and hexadecimal digits at all others. -/
structure IsCanonical (text : String) : Prop where
  length : (utf8 text).length = 36
  hyphens : ∀ offset ∈ [8, 13, 18, 23], (utf8 text)[offset]? = some hyphen
  digits : ∀ offset, offset ∉ [8, 13, 18, 23] → ∀ byte, (utf8 text)[offset]? = some byte → Hex.isDigit byte = true

def groups : List Nat :=
  [8, 4, 4, 4]

theorem length_between (whole : separated hyphen groups (between groups bytes) = bytes) (length : bytes.length = 36) :
    (between groups bytes).length = 32 := by
  have total := length_separated hyphen groups (between groups bytes)
  rw [whole, length] at total
  exact (Nat.add_right_cancel (show 32 + groups.length = _ from total)).symm

theorem isCanonical_iff : IsCanonical text ↔
    ∃ digits, utf8 text = separated hyphen groups digits ∧ digits.length = 32 ∧
      ∀ digit ∈ digits, Hex.isDigit digit = true := by
  constructor
  · intro canonical
    have whole : separated hyphen groups (between groups (utf8 text)) = utf8 text :=
      separated_between canonical.hyphens
    refine ⟨between groups (utf8 text), whole.symm, length_between whole canonical.length, ?_⟩
    intro digit member
    obtain ⟨offset, outside, here⟩ := mem_between_iff.mp member
    exact canonical.digits offset outside digit here
  · rintro ⟨digits, whole, size, all⟩
    have enough : groups.sum ≤ digits.length := by
      rw [size]
      decide
    refine ⟨?_, ?_, ?_⟩
    · rw [whole, length_separated, size]
      rfl
    · rw [whole]
      exact getElem?_separated enough
    · intro offset outside byte here
      apply all
      rw [← between_separated enough, ← whole]
      exact mem_between_iff.mpr ⟨offset, outside, here⟩

theorem ofDigits?_eq_some_iff : ofDigits? digits = some uuid ↔ Hex.decode? digits = some uuid.bytes := by
  rw [ofDigits?, Option.bind_eq_some_iff]
  simp only [ofBytes?_eq_some_iff]
  constructor
  · rintro ⟨bytes, decoded, rfl⟩
    exact decoded
  · intro decoded
    exact ⟨uuid.bytes, decoded, rfl⟩

-- Sixteen bytes are read from thirty-two digits, and only from those.
theorem length_of_ofDigits? (read : ofDigits? digits = some uuid) :
    digits.length = 32 ∧ ∀ digit ∈ digits, Hex.isDigit digit = true := by
  have decoded := ofDigits?_eq_some_iff.mp read
  have size := Hex.length_of_decode? decoded
  rw [uuid.length_bytes] at size
  exact ⟨size, Hex.isDigit_of_decode? decoded⟩

theorem ofDigits?_of_isDigit (size : digits.length = 32) (all : ∀ digit ∈ digits, Hex.isDigit digit = true) :
    ∃ uuid, ofDigits? digits = some uuid := by
  obtain ⟨bytes, decoded⟩ := Hex.decode?_of_isDigit (by rw [size]) all
  have length := Hex.length_of_decode? decoded
  exact ⟨⟨bytes, by omega⟩, ofDigits?_eq_some_iff.mpr decoded⟩

theorem filter_eq_self_of_isDigit (all : ∀ digit ∈ digits, Hex.isDigit digit = true) :
    digits.filter (· != hyphen) = digits := by
  rw [List.filter_eq_self]
  intro digit member
  have read := all digit member
  rw [bne_iff_ne]
  rintro rfl
  cases read

theorem filter_separated_hyphen (digits : Bytes) :
    (separated hyphen groups digits).filter (· != hyphen) = digits.filter (· != hyphen) :=
  filter_separated (by decide)

theorem find?_hyphenOffsets_eq_none_iff :
    (hyphenOffsets.find? fun offset => bytes[offset]? != some hyphen) = none ↔
      ∀ site ∈ sites groups, bytes[site]? = some hyphen := by
  rw [List.find?_eq_none]
  exact forall₂_congr fun offset _ => by simp

theorem parse_eq (text : String) : parse text =
    if (utf8 text).length ≠ textLength then .error (.uuidLength (utf8 text).length) else
      match hyphenOffsets.find? fun offset => (utf8 text)[offset]? != some hyphen with
      | some offset => .error (.uuidHyphen offset)
      | none =>
          match ofDigits? ((utf8 text).filter (· != hyphen)) with
          | some uuid => .ok uuid
          | none => .error (.uuidDigits text) :=
  rfl

/-- What is read are digits between hyphens; extra hyphens among them leave too few for sixteen bytes. -/
theorem parse_eq_ok_iff : parse text = .ok uuid ↔
    ∃ digits, utf8 text = separated hyphen groups digits ∧ ofDigits? digits = some uuid := by
  rw [parse_eq]
  constructor
  · intro parsed
    split at parsed
    case isTrue => cases parsed
    case isFalse length =>
      split at parsed
      case h_1 => cases parsed
      case h_2 found =>
        have whole := separated_between (find?_hyphenOffsets_eq_none_iff.mp found)
        split at parsed
        case h_2 => cases parsed
        case h_1 read =>
          cases parsed
          rw [← whole, filter_separated_hyphen] at read
          have size := length_between whole (Decidable.not_not.mp length)
          have kept := (length_of_ofDigits? read).1.trans size.symm
          rw [List.filter_sublist.eq_of_length kept] at read
          exact ⟨_, whole.symm, read⟩
  · rintro ⟨digits, whole, read⟩
    obtain ⟨size, all⟩ := length_of_ofDigits? read
    have enough : groups.sum ≤ digits.length := by
      rw [size]
      decide
    have length : (utf8 text).length = textLength := by
      rw [whole, length_separated, size]
      rfl
    have places : ∀ site ∈ sites groups, (utf8 text)[site]? = some hyphen := by
      rw [whole]
      exact getElem?_separated enough
    have found := find?_hyphenOffsets_eq_none_iff.mpr places
    have digitsRead : ofDigits? ((utf8 text).filter (· != hyphen)) = some uuid := by
      rwa [whole, filter_separated_hyphen, filter_eq_self_of_isDigit all]
    rw [if_neg (not_not_intro length), found]
    simp only [digitsRead]

-- A UUID is written as its digits with hyphens between them.
theorem charsFrom_eq (uuid : ProximityUuid) :
    charsFrom 0 uuid.bytes = separated '-' groups (Hex.encode uuid.bytes) := by
  obtain ⟨bytes, sixteen⟩ := uuid
  match bytes, sixteen with
  | [_, _, _, _, _, _, _, _, _, _, _, _, _, _, _, _], _ => rfl

theorem utf8_text (uuid : ProximityUuid) :
    utf8 uuid.text = separated hyphen groups ((Hex.encode uuid.bytes).map Char.toUInt8) := by
  rw [text, charsFrom_eq, utf8_ofList_of_ascii, map_separated]
  · rfl
  · intro char member
    rcases mem_of_mem_separated member with rfl | digit
    · decide
    · exact Hex.toNat_lt_of_mem_encode digit

theorem parse_text (uuid : ProximityUuid) : parse uuid.text = .ok uuid :=
  parse_eq_ok_iff.mpr ⟨_, utf8_text uuid, ofDigits?_eq_some_iff.mpr (Hex.decode?_encode uuid.bytes)⟩

theorem eq_ofList_of_ascii (ascii : ∀ byte ∈ utf8 text, byte.toNat < 128) :
    text = .ofList ((utf8 text).map Char.ofUInt8) :=
  utf8_inj.mp (utf8_ofList_ofUInt8 ascii).symm

theorem toLower_ofList (chars : List Char) : (String.ofList chars).toLower = .ofList (chars.map Char.toLower) := by
  have lowered : ((String.ofList chars).map Char.toLower).toList = (String.ofList (chars.map Char.toLower)).toList := by
    rw [String.toList_map, String.toList_ofList, String.toList_ofList]
  exact String.toList_inj.mp lowered

/-- A text that was read is written again in lower case. -/
theorem text_of_parse (parsed : parse text = .ok uuid) : uuid.text = text.toLower := by
  obtain ⟨digits, whole, read⟩ := parse_eq_ok_iff.mp parsed
  have decoded := ofDigits?_eq_some_iff.mp read
  have ascii : ∀ byte ∈ utf8 text, byte.toNat < 128 := by
    intro byte member
    rw [whole] at member
    rcases mem_of_mem_separated member with rfl | digit
    · decide
    · exact Hex.toNat_lt_of_isDigit (Hex.isDigit_of_decode? decoded byte digit)
  rw [eq_ofList_of_ascii ascii, toLower_ofList, whole, map_separated, map_separated, List.map_map, ProximityUuid.text,
    charsFrom_eq, Hex.encode_of_decode? decoded]
  rfl

theorem parse_isOk_iff : (∃ uuid, parse text = .ok uuid) ↔ IsCanonical text := by
  simp only [parse_eq_ok_iff, isCanonical_iff]
  constructor
  · rintro ⟨uuid, digits, whole, read⟩
    exact ⟨digits, whole, length_of_ofDigits? read⟩
  · rintro ⟨digits, whole, size, all⟩
    obtain ⟨uuid, read⟩ := ofDigits?_of_isDigit size all
    exact ⟨uuid, digits, whole, read⟩

/-! No text takes the reader out of a buffer. -/

theorem misplaced?_eq {offsets : List Nat} (inside : ∀ offset ∈ offsets, offset < bytes.length) :
    misplaced? bytes offsets = some (offsets.find? fun offset => bytes[offset]? != some hyphen) := by
  induction offsets with
  | nil => rfl
  | cons offset rest ih =>
    obtain ⟨byte, here⟩ : ∃ byte, bytes[offset]? = some byte :=
      ⟨_, List.getElem?_eq_getElem (inside offset List.mem_cons_self)⟩
    have later := ih fun other member => inside other (List.mem_cons_of_mem _ member)
    by_cases placed : byte = hyphen
    next => simp [misplaced?, here, placed, later]
    next => simp [misplaced?, here, placed]

theorem readPair?_eq {upper lower : UInt8} {high low : Nat} (upperRead : Hex.value? upper = some high)
    (lowerRead : Hex.value? lower = some low) : readPair? [upper, lower] = some (.ofNat (16 * high + low)) := by
  have ascii : ∀ byte ∈ [upper, lower], byte.toNat < 128 := by
    intro byte member
    apply Hex.toNat_lt_of_isDigit
    rcases List.mem_pair.mp member with rfl | rfl
    · rw [← Hex.isSome_value?, upperRead, Option.isSome_some]
    · rw [← Hex.isSome_value?, lowerRead, Option.isSome_some]
  have taken := fromUTF8?_utf8 (.ofList ([upper, lower].map Char.ofUInt8))
  rw [utf8_ofList_ofUInt8 ascii] at taken
  rw [readPair?, taken, Option.bind_eq_bind, Option.bind_some, utf8_ofList_ofUInt8 ascii]
  exact Hex.readByte?_pair upperRead lowerRead

theorem fill?_pairs (decoded : Hex.decode? digits = some bytes) {slots : Bytes} {index : Nat}
    (room : slots.length = index + bytes.length) :
    fill? slots index (Hex.pairs digits) = some (some (slots.take index ++ bytes)) := by
  fun_induction Hex.decode? digits generalizing bytes slots index with
  | case1 =>
    cases decoded
    have full : slots.take index = slots := List.take_of_length_le (by simp [room])
    rw [full, List.append_nil]
    rfl
  | case2 => cases decoded
  | case3 upper lower rest ih =>
    obtain ⟨high, low, others, upperRead, lowerRead, restRead, rfl⟩ := Hex.decode?_cons_cons_eq_some_iff.mp decoded
    rw [List.length_cons] at room
    have inside : index < slots.length := by omega
    simp only [Hex.pairs, fill?, readPair?_eq upperRead lowerRead, write?, if_pos inside, Option.bind_eq_bind,
      Option.bind_some]
    have front : (slots.set index (.ofNat (16 * high + low))).take (index + 1) =
        slots.take index ++ [.ofNat (16 * high + low)] := by
      rw [List.take_add_one, List.take_set_of_le (Nat.le_refl index), List.getElem?_set_self inside, Option.toList_some]
    rw [ih restRead (by rw [List.length_set]; omega), front, List.append_assoc]
    rfl

/-- The reader stops at no text; its checks leave no pair that could not be read and none too many. -/
theorem parse?_eq (text : String) : parse? text = some (parse text) := by
  rw [parse?, parse_eq]
  by_cases length : (utf8 text).length = textLength
  next =>
    have inside : ∀ offset ∈ hyphenOffsets, offset < (utf8 text).length := by
      rw [length]
      decide
    rw [if_neg (not_not_intro length), if_neg (not_not_intro length), misplaced?_eq inside, Option.bind_eq_bind,
      Option.bind_some]
    cases hyphenOffsets.find? fun offset => (utf8 text)[offset]? != some hyphen with
    | some offset => rfl
    | none =>
      generalize (utf8 text).filter (· != hyphen) = digits
      cases read : ofDigits? digits with
      | some uuid =>
        obtain ⟨size, all⟩ := length_of_ofDigits? read
        have room : (List.replicate 16 (0 : UInt8)).length = 0 + uuid.bytes.length := by
          rw [uuid.length_bytes, List.length_replicate]
        have filled := fill?_pairs (ofDigits?_eq_some_iff.mp read) room
        have taken : ofBytes? uuid.bytes = some uuid := ofBytes?_eq_some_iff.mpr rfl
        have accepted : (decide (digits.length ≠ 32) || !digits.all Hex.isDigit) = false := by simpa [size] using all
        simp only [accepted, Bool.false_eq_true, if_false, filled, List.take_zero, List.nil_append, Option.bind_eq_bind,
          Option.bind_some, taken, Option.map_some]
      | none =>
        have unread : ¬ (digits.length = 32 ∧ ∀ digit ∈ digits, Hex.isDigit digit = true) := by
          rintro ⟨size, all⟩
          obtain ⟨uuid, readToo⟩ := ofDigits?_of_isDigit size all
          exact absurd (read.symm.trans readToo) (by simp)
        have refused : (decide (digits.length ≠ 32) || !digits.all Hex.isDigit) = true := by
          simpa [← imp_iff_not_or] using unread
        simp only [refused, if_true]
  next => rw [if_pos length, if_pos length]

/-- Exactly the canonical texts are read; what was read is written as the same text in lower case, what was written
is read back, and no text stops the reader. -/
theorem parse?_canonical : (∀ text, ∃ result, parse? text = some result ∧
      ((∃ uuid, result = .ok uuid) ↔ IsCanonical text) ∧ ∀ uuid, result = .ok uuid → uuid.text = text.toLower) ∧
    ∀ uuid : ProximityUuid, parse? uuid.text = some (.ok uuid) := by
  constructor
  · intro text
    exact ⟨parse text, parse?_eq text, parse_isOk_iff, fun uuid => text_of_parse⟩
  · intro uuid
    rw [parse?_eq, parse_text]

end BeaconWatch.ProximityUuid
