import BeaconWatch.Proofs.Json.Numbers
import BeaconWatch.Proofs.Json.Text
import BeaconWatch.Proofs.ProximityUuid

/-!
Where the reading of configurations and records aborts. Their numbers of seconds are refused when they are negative or
not finite, but not when they are too great for a duration or a point in time.
-/

set_option autoImplicit false

namespace BeaconWatch

open Double (reach)
open Json (Reading Fields)

variable {abort : Abort}

/-! Readers that never abort. -/

namespace Json

theorem abort?_readInt (json : Json) : (readInt json).abort? = none := by
  fun_cases readInt json <;> rfl

theorem abort?_readBounded {α : Type} (low high : Int) (make : Int → α) (json : Json) :
    (readBounded low high make json).abort? = none := by
  apply abort?_bind_eq_none (abort?_readInt json)
  intro n
  split <;> rfl

theorem abort?_readText (json : Json) : (readText json).abort? = none := by
  fun_cases readText json <;> rfl

theorem abort?_readOption {α : Type} {read : Json → Reading α} (never : ∀ json, (read json).abort? = none)
    (json : Json) : (readOption read json).abort? = none := by
  fun_cases readOption read json
  · rfl
  · rw [abort?_map, never]

theorem Document.abort?_read {α : Type} (document : Document) (read : Json → Reading α) :
    (document.read read).abort? = (read document.value).abort? := by
  ext abort
  have complete (value : α) : Reading.abort? (if document.complete then .ok value else .error .malformed) = none := by
    split <;> rfl
  simp [Document.read, abort?_bind_iff, complete]

end Json

theorem ProximityUuid.abort?_ofJson (json : Json) : (ofJson json).abort? = none := by
  apply Json.abort?_bind_eq_none (Json.abort?_readText json)
  intro text
  split <;> rfl

theorem IntakePath.abort?_ofName (name : String) : (ofName name).abort? = none := by
  rw [ofName]
  split <;> rfl

theorem IntakePath.abort?_ofJson (json : Json) : (ofJson json).abort? = none := by
  fun_cases ofJson json
  · exact abort?_ofName _
  · apply Json.abort?_bind_eq_none (abort?_ofName _)
    intro path
    split <;> rfl
  · rfl

theorem IdentityKey.abort?_ofJson (json : Json) : (ofJson json).abort? = none := by
  have lists : fields.Lists [("major", fun value => (Json.readUInt16 value).abort?),
      ("minor", fun value => (Json.readUInt16 value).abort?)] :=
    ((Fields.lists_required ..).both (Fields.lists_required ..)).map _
  apply lists.abort?_read_eq_none
  simp [Json.readUInt16, Json.abort?_readBounded]

/-! What is written is read back. -/

theorem ProximityUuid.ofJson_toJson (uuid : ProximityUuid) : ofJson uuid.toJson = .ok uuid := by
  simp [ofJson, toJson, Json.text, Json.readText, parse_text, bind, Except.bind]

namespace Json

theorem readBounded_of_readInt {α : Type} {json : Json} {low high n : Int} (make : Int → α)
    (counted : readInt json = .ok n) (range : low ≤ n ∧ n ≤ high) : readBounded low high make json = .ok (make n) := by
  simp only [readBounded, counted, bind, Except.bind, if_pos range]

theorem readBounded_integer {α : Type} {low high n : Int} (make : Int → α) (range : low ≤ n ∧ n ≤ high) :
    readBounded low high make (.integer n) = .ok (make n) :=
  readBounded_of_readInt make rfl range

theorem readUInt16_integer (n : UInt16) : readUInt16 (.integer n.toNat) = .ok n := by
  have small := n.toNat_lt
  rw [readUInt16, readBounded_integer _ (by omega), Int.toNat_natCast, UInt16.ofNat_toNat]

theorem readUInt64_integer (n : UInt64) : readUInt64 (.integer n.toNat) = .ok n := by
  have small := n.toNat_lt
  rw [readUInt64, readBounded_integer _ (by omega), Int.toNat_natCast, UInt64.ofNat_toNat]

theorem readInt16_integer (n : Int16) : readInt16 (.integer n.toInt) = .ok n := by
  have low := n.le_toInt
  have high := n.toInt_lt
  rw [readInt16, readBounded_integer _ (by omega), Int16.ofInt_toInt]

theorem readInt32_integer (n : Int32) : readInt32 (.integer n.toInt) = .ok n := by
  have low := n.le_toInt
  have high := n.toInt_lt
  rw [readInt32, readBounded_integer _ (by omega), Int32.ofInt_toInt]

end Json

theorem IdentityKey.ofJson_toJson (key : IdentityKey) : ofJson key.toJson = .ok key := by
  simp [ofJson, fields, toJson, Json.record, Fields.read, Fields.collect, Fields.required, Fields.one, Fields.both,
    Fields.map, Json.readUInt16_integer, bind, Except.bind, Except.map]

theorem IntakePath.ofJson_toJson (path : IntakePath) : ofJson path.toJson = .ok path := by
  cases path <;> rfl

theorem IntakePath.readOption_toJson (path : Option IntakePath) :
    Json.readOption ofJson (path.elim .null toJson) = .ok path := by
  cases path with
  | none => rfl
  | some path => cases path <;> rfl

/-! The fields that can abort. -/

section

variable {reader : Numeral → Option Double}

namespace TrackerConfig

theorem lists_fieldsBy : (fieldsBy reader).Lists [("proximity_uuid", fun value => (ProximityUuid.ofJson value).abort?),
    ("expiration", fun value => (Json.readDurationBy reader value).abort?),
    ("payload_byte_count", fun value => (Json.readUInt64 value).abort?),
    ("channel_capacity", fun value => (Json.readUInt64 value).abort?)] :=
  ((Fields.lists_required ..).both ((Fields.lists_required ..).both
    ((Fields.lists_required ..).both (Fields.lists_required ..)))).map _

theorem holds_of_abort {json : Json} (aborted : (ofJsonBy reader json).abort? = some abort) :
    ∃ value, json.Holds "expiration" 1 value ∧ (Json.readDurationBy reader value).abort? = some abort := by
  obtain ⟨place, entry, value, listed, held, reason⟩ := lists_fieldsBy.read aborted
  match place, listed with
  | 0, rfl => exact absurd (reason.symm.trans (ProximityUuid.abort?_ofJson value)) (by simp)
  | 1, rfl => exact ⟨value, held, reason⟩
  | 2, rfl | 3, rfl => exact absurd (reason.symm.trans (Json.abort?_readBounded ..)) (by simp)

/-- The document of a configuration with something else for its expiration. -/
def toJsonWith (config : TrackerConfig) (seconds : Json) : Json :=
  .record [("proximity_uuid", config.proximityUuid.toJson), ("expiration", seconds),
    ("payload_byte_count", .integer config.payloadByteCount.toNat),
    ("channel_capacity", .integer config.channelCapacity.toNat)]

/-- The document with something else for each of its three numbers. -/
def toJsonOf (config : TrackerConfig) (seconds size capacity : Json) : Json :=
  .record [("proximity_uuid", config.proximityUuid.toJson), ("expiration", seconds),
    ("payload_byte_count", size), ("channel_capacity", capacity)]

theorem ofJsonBy_toJsonOf {config : TrackerConfig} {size capacity : Json}
    (payload : Json.readUInt64 size = .ok config.payloadByteCount)
    (channel : Json.readUInt64 capacity = .ok config.channelCapacity) (seconds : Json) :
    ofJsonBy reader (config.toJsonOf seconds size capacity) =
      (Json.readDurationBy reader seconds).map fun expiration => { config with expiration := expiration } := by
  have uuid := ProximityUuid.ofJson_toJson config.proximityUuid
  cases read : Json.readDurationBy reader seconds <;>
    simp [ofJsonBy, fieldsBy, toJsonOf, Json.record, Fields.read, Fields.collect, Fields.required, Fields.one,
      Fields.both, Fields.map, uuid, payload, channel, read, bind, Except.bind, Except.map]

theorem ofJsonBy_toJsonWith (config : TrackerConfig) (seconds : Json) : ofJsonBy reader (config.toJsonWith seconds) =
    (Json.readDurationBy reader seconds).map fun expiration => { config with expiration := expiration } :=
  ofJsonBy_toJsonOf (Json.readUInt64_integer _) (Json.readUInt64_integer _) seconds

end TrackerConfig

namespace BeaconRecord

theorem lists_fieldsBy : (fieldsBy reader).Lists [("key", fun value => (IdentityKey.ofJson value).abort?),
    ("major", fun value => (Json.readUInt16 value).abort?), ("minor", fun value => (Json.readUInt16 value).abort?),
    ("tx_power", fun value => (Json.readInt16 value).abort?), ("rssi", fun value => (Json.readInt32 value).abort?),
    ("observed_at", fun value => (Json.readTimestampBy reader value).abort?),
    ("source", fun value => (Json.readOption IntakePath.ofJson value).abort?)] :=
  ((Fields.lists_required ..).both ((Fields.lists_required ..).both ((Fields.lists_required ..).both
    ((Fields.lists_required ..).both ((Fields.lists_required ..).both
      ((Fields.lists_required ..).both (Fields.lists_one ..))))))).map _

theorem holds_of_abort {json : Json} (aborted : (ofJsonBy reader json).abort? = some abort) :
    ∃ value, json.Holds "observed_at" 5 value ∧ (Json.readTimestampBy reader value).abort? = some abort := by
  obtain ⟨place, entry, value, listed, held, reason⟩ := lists_fieldsBy.read aborted
  match place, listed with
  | 0, rfl => exact absurd (reason.symm.trans (IdentityKey.abort?_ofJson value)) (by simp)
  | 1, rfl | 2, rfl | 3, rfl | 4, rfl => exact absurd (reason.symm.trans (Json.abort?_readBounded ..)) (by simp)
  | 5, rfl => exact ⟨value, held, reason⟩
  | 6, rfl => exact absurd (reason.symm.trans (Json.abort?_readOption IntakePath.abort?_ofJson value)) (by simp)

/-- The document of a record with something else for its time. -/
def toJsonWith (record : BeaconRecord) (seconds : Json) : Json :=
  .record [("key", record.key.toJson), ("major", .integer record.major.toNat),
    ("minor", .integer record.minor.toNat), ("tx_power", .integer record.txPower.toInt),
    ("rssi", .integer record.rssi.toInt), ("observed_at", seconds),
    ("source", record.source.elim .null IntakePath.toJson)]

theorem ofJsonBy_toJsonWith (record : BeaconRecord) (seconds : Json) : ofJsonBy reader (record.toJsonWith seconds) =
    (Json.readTimestampBy reader seconds).map fun time => { record with observedAt := time } := by
  have key := IdentityKey.ofJson_toJson record.key
  have major := Json.readUInt16_integer record.major
  have minor := Json.readUInt16_integer record.minor
  have power := Json.readInt16_integer record.txPower
  have rssi := Json.readInt32_integer record.rssi
  have source := IntakePath.readOption_toJson record.source
  cases read : Json.readTimestampBy reader seconds <;>
    simp [ofJsonBy, fieldsBy, toJsonWith, Json.record, Fields.read, Fields.collect, Fields.required, Fields.one,
      Fields.both, Fields.map, key, major, minor, power, rssi, source, read, bind, Except.bind, Except.map]

end BeaconRecord

end

/-! What the bounds are for the numbers that are written. -/

/-- A number that is neither negative nor too great for a double, but at least some limit. -/
def Numeral.Exceeds (number : Numeral) (limit : ℚ) : Prop :=
  number.negative = false ∧ limit ≤ number.toRat ∧ number.toRat < 2 ^ 1024 - 2 ^ 970

namespace Double

theorem reach_63 : reach 63 = 2 ^ 63 - 512 := by
  norm_num [reach]

theorem reach_64 : reach 64 = 2 ^ 64 - 1024 := by
  norm_num [reach]

theorem reach_1024 : reach 1024 = 2 ^ 1024 - 2 ^ 970 := by
  rw [reach, show ((1024 : ℕ) : ℤ) - 54 = (970 : ℕ) by norm_num, zpow_natCast]

end Double

theorem Numeral.exceeds_64_iff (number : Numeral) :
    number.Exceeds (2 ^ 64 - 1024) ↔ number.IsReadPast magnitude? 64 := by
  rw [Exceeds, ← Double.reach_64, ← Double.reach_1024, isReadPast_magnitude?_iff (by decide)]

theorem Numeral.exceeds_63_iff (number : Numeral) :
    number.Exceeds (2 ^ 63 - 512) ↔ number.IsReadPast magnitude? 63 := by
  rw [Exceeds, ← Double.reach_63, ← Double.reach_1024, isReadPast_magnitude?_iff (by decide)]

namespace Json

section

variable {reader : Numeral → Option Double}

theorem abort?_readDurationBy_numeral_iff (number : Numeral) :
    (readDurationBy reader (.numeral number)).abort? = some abort ↔
      number.IsReadPast reader 64 ∧ abort = .secondsOutOfRange :=
  abort?_numeral_iff (fun _ _ => Duration.ofDouble_eq_error_iff) number

theorem abort?_readTimestampBy_numeral_iff (number : Numeral) :
    (readTimestampBy reader (.numeral number)).abort? = some abort ↔
      number.IsReadPast reader 63 ∧ abort = .secondsOutOfRange :=
  abort?_numeral_iff (fun _ _ => Timestamp.ofDouble_eq_error_iff) number

-- In a text only a number can be read as seconds.
theorem numeral_of_readSecondsBy {json : Json} {value : Double} (written : json.IsWritten)
    (read : readSecondsBy reader json = .ok value) : ∃ number, json = .numeral number := by
  cases written with
  | numeral number => exact ⟨number, rfl⟩
  | _ => cases read

theorem isReadPast_of_readDurationBy {json : Json} (written : json.IsWritten)
    (aborted : (readDurationBy reader json).abort? = some abort) :
    ∃ number, json = .numeral number ∧ number.IsReadPast reader 64 ∧ abort = .secondsOutOfRange := by
  obtain ⟨⟨value, read, -⟩, -⟩ := (abort?_seconds_iff fun _ _ => Duration.ofDouble_eq_error_iff).mp aborted
  obtain ⟨number, rfl⟩ := numeral_of_readSecondsBy written read
  exact ⟨number, rfl, (abort?_readDurationBy_numeral_iff number).mp aborted⟩

theorem isReadPast_of_readTimestampBy {json : Json} (written : json.IsWritten)
    (aborted : (readTimestampBy reader json).abort? = some abort) :
    ∃ number, json = .numeral number ∧ number.IsReadPast reader 63 ∧ abort = .secondsOutOfRange := by
  obtain ⟨⟨value, read, -⟩, -⟩ := (abort?_seconds_iff fun _ _ => Timestamp.ofDouble_eq_error_iff).mp aborted
  obtain ⟨number, rfl⟩ := numeral_of_readSecondsBy written read
  exact ⟨number, rfl, (abort?_readTimestampBy_numeral_iff number).mp aborted⟩

end

theorem IsWritten.of_holds {json value : Json} {name : String} {place : Nat} (written : json.IsWritten)
    (held : json.Holds name place value) : value.IsWritten := by
  cases written with
  | object members => exact members _ held
  | array items => exact items _ (List.mem_of_getElem? held)
  | _ => exact held.elim

theorem abort?_readDurationBy_toDouble_iff {reader : Numeral → Option Double} (duration : Duration) :
    (readDurationBy reader (.double duration.toDouble)).abort? = some abort ↔
      2 ^ 64 - 1024 ≤ duration.seconds ∧ abort = .secondsOutOfRange := by
  have rounds : 2 ^ 64 - 1024 ≤ duration.seconds ↔ reach 64 ≤ duration.seconds := by
    rw [Double.reach_64, ← Nat.cast_le (α := ℚ), Nat.cast_sub (by norm_num)]
    norm_num
  rw [rounds, ← duration.two_pow_le_toDouble_iff (by decide)]
  exact abort?_double_iff (fun _ _ => Duration.ofDouble_eq_error_iff) (by decide) duration.isFormed_toDouble

end Json

namespace TrackerConfig

/-- What is written for a configuration is read back just when its expiration does not round up to the bound. -/
theorem ofJson_toJson_eq_error_iff (config : TrackerConfig) :
    ofJson config.toJson = .error (.aborted .secondsOutOfRange) ↔ 2 ^ 64 - 1024 ≤ config.expiration.seconds := by
  rw [← Json.Reading.abort?_eq_some_iff, show config.toJson = config.toJsonWith (.double config.expiration.toDouble) from
    rfl, ofJson, ofJsonBy_toJsonWith, Json.abort?_map, Json.abort?_readDurationBy_toDouble_iff]
  simp

theorem ofJson_toJson_of_lt {config : TrackerConfig} (small : config.expiration.seconds < 2 ^ 64 - 1024) :
    ∃ expiration, ofJson config.toJson = .ok { config with expiration := expiration } := by
  rw [show config.toJson = config.toJsonWith (.double config.expiration.toDouble) from rfl, ofJson, ofJsonBy_toJsonWith]
  rcases Json.seconds_double_cases Duration.ofDouble config.expiration.toDouble with ⟨expiration, read⟩ | ⟨abort, failed⟩
  · exact ⟨expiration, Json.map_eq_ok_iff.mpr ⟨_, read, rfl⟩⟩
  · have aborted := (Json.abort?_readDurationBy_toDouble_iff _).mp (Json.Reading.abort?_eq_some_iff.mpr failed)
    exact absurd aborted.1 (Nat.not_le.mpr small)

end TrackerConfig

section

variable (reader : Numeral → Option Double) (number : Numeral) (config : TrackerConfig) (record : BeaconRecord)
  (text : String)

theorem TrackerConfig.isReadPast_of_abort
    (aborted : ((Json.Document.ofText text).read (ofJsonBy reader)).abort? = some abort) :
    ∃ number, (Json.Document.ofText text).value.Holds "expiration" 1 (.numeral number) ∧
      number.IsReadPast reader 64 ∧ abort = .secondsOutOfRange := by
  rw [Json.Document.abort?_read] at aborted
  obtain ⟨value, held, reason⟩ := holds_of_abort aborted
  obtain ⟨number, rfl, past⟩ := Json.isReadPast_of_readDurationBy ((Json.isWritten_ofText text).of_holds held) reason
  exact ⟨number, held, past⟩

theorem BeaconRecord.isReadPast_of_abort
    (aborted : ((Json.Document.ofText text).read (ofJsonBy reader)).abort? = some abort) :
    ∃ number, (Json.Document.ofText text).value.Holds "observed_at" 5 (.numeral number) ∧
      number.IsReadPast reader 63 ∧ abort = .secondsOutOfRange := by
  rw [Json.Document.abort?_read] at aborted
  obtain ⟨value, held, reason⟩ := holds_of_abort aborted
  obtain ⟨number, rfl, past⟩ := Json.isReadPast_of_readTimestampBy ((Json.isWritten_ofText text).of_holds held) reason
  exact ⟨number, held, past⟩

theorem TrackerConfig.abort?_ofJsonBy_numeral_iff :
    (ofJsonBy reader (config.toJsonWith (.numeral number))).abort? = some abort ↔
      number.IsReadPast reader 64 ∧ abort = .secondsOutOfRange := by
  rw [ofJsonBy_toJsonWith, Json.abort?_map, Json.abort?_readDurationBy_numeral_iff]

theorem BeaconRecord.abort?_ofJsonBy_numeral_iff :
    (ofJsonBy reader (record.toJsonWith (.numeral number))).abort? = some abort ↔
      number.IsReadPast reader 63 ∧ abort = .secondsOutOfRange := by
  rw [ofJsonBy_toJsonWith, Json.abort?_map, Json.abort?_readTimestampBy_numeral_iff]

end

/-- A configuration or a record that is read from a text aborts only at a number of seconds that rounds up to more than
a duration or a point in time can be; in a document that is otherwise in order it does so at each such number. That is
so for a reader that takes each number to the nearest double; with any other one it is the double that it gives which
is too great, or not. A configuration's own document is read back unless the expiration is among the last 1024 seconds
a duration can have. -/
theorem reading_aborts_iff_exceeds (text : String) (number : Numeral) (config : TrackerConfig) (record : BeaconRecord)
    (abort : Abort) :
    (((Json.Document.ofText text).read TrackerConfig.ofJson).abort? = some abort →
        ∃ number, (Json.Document.ofText text).value.Holds "expiration" 1 (.numeral number) ∧
          number.Exceeds (2 ^ 64 - 1024) ∧ abort = .secondsOutOfRange) ∧
      (((Json.Document.ofText text).read BeaconRecord.ofJson).abort? = some abort →
        ∃ number, (Json.Document.ofText text).value.Holds "observed_at" 5 (.numeral number) ∧
          number.Exceeds (2 ^ 63 - 512) ∧ abort = .secondsOutOfRange) ∧
      ((TrackerConfig.ofJson (config.toJsonWith (.numeral number))).abort? = some abort ↔
        number.Exceeds (2 ^ 64 - 1024) ∧ abort = .secondsOutOfRange) ∧
      ((BeaconRecord.ofJson (record.toJsonWith (.numeral number))).abort? = some abort ↔
        number.Exceeds (2 ^ 63 - 512) ∧ abort = .secondsOutOfRange) ∧
      (∀ reader,
        (((Json.Document.ofText text).read (TrackerConfig.ofJsonBy reader)).abort? = some abort →
          ∃ number, (Json.Document.ofText text).value.Holds "expiration" 1 (.numeral number) ∧
            number.IsReadPast reader 64 ∧ abort = .secondsOutOfRange) ∧
        (((Json.Document.ofText text).read (BeaconRecord.ofJsonBy reader)).abort? = some abort →
          ∃ number, (Json.Document.ofText text).value.Holds "observed_at" 5 (.numeral number) ∧
            number.IsReadPast reader 63 ∧ abort = .secondsOutOfRange) ∧
        ((TrackerConfig.ofJsonBy reader (config.toJsonWith (.numeral number))).abort? = some abort ↔
          number.IsReadPast reader 64 ∧ abort = .secondsOutOfRange) ∧
        ((BeaconRecord.ofJsonBy reader (record.toJsonWith (.numeral number))).abort? = some abort ↔
          number.IsReadPast reader 63 ∧ abort = .secondsOutOfRange)) ∧
      (TrackerConfig.ofJson config.toJson = .error (.aborted .secondsOutOfRange) ↔
        2 ^ 64 - 1024 ≤ config.expiration.seconds) ∧
      (config.expiration.seconds < 2 ^ 64 - 1024 →
        ∃ expiration, TrackerConfig.ofJson config.toJson = .ok { config with expiration := expiration }) := by
  refine ⟨?_, ?_, ?_, ?_, ?_, config.ofJson_toJson_eq_error_iff, TrackerConfig.ofJson_toJson_of_lt⟩
  · simp only [Numeral.exceeds_64_iff]
    exact TrackerConfig.isReadPast_of_abort _ text
  · simp only [Numeral.exceeds_63_iff]
    exact BeaconRecord.isReadPast_of_abort _ text
  · rw [Numeral.exceeds_64_iff]
    exact config.abort?_ofJsonBy_numeral_iff ..
  · rw [Numeral.exceeds_63_iff]
    exact record.abort?_ofJsonBy_numeral_iff ..
  · intro reader
    exact ⟨TrackerConfig.isReadPast_of_abort reader text, BeaconRecord.isReadPast_of_abort reader text,
      config.abort?_ofJsonBy_numeral_iff .., record.abort?_ofJsonBy_numeral_iff ..⟩

-- A duration of 2 ^ 64 - 1 seconds is usable, and its double is 2 ^ 64.
theorem valid_config_not_read_back : ∃ config : TrackerConfig, config.validate = .ok () ∧
    TrackerConfig.ofJson config.toJson = .error (.aborted .secondsOutOfRange) := by
  refine ⟨{ expiration := ⟨(2 ^ 64 - 1) * nanosPerSecond, by decide⟩ }, rfl, ?_⟩
  rw [TrackerConfig.ofJson_toJson_eq_error_iff]
  decide

end BeaconWatch
