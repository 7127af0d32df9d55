import BeaconWatch.Registry.Calls
import Mathlib.Data.List.Induction

/-!
What a registry holds, told by the history of its updates. The record of a key is the one written last for
it, as long as no update since then came later than the expiration allows.
-/

set_option autoImplicit false

namespace BeaconWatch.Registry

def Operation.written? : Operation → Option BeaconRecord
  | .update identity rssi now => some {
      key := ⟨identity.major, identity.minor⟩
      major := identity.major
      minor := identity.minor
      txPower := identity.txPower
      rssi := rssi
      observedAt := now
      source := none }
  | .record sighting now => some {
      key := ⟨sighting.major, sighting.minor⟩
      major := sighting.major
      minor := sighting.minor
      txPower := sighting.txPower
      rssi := sighting.rssi
      observedAt := now
      source := some sighting.source }
  | .snapshot | .get _ | .age _ _ | .size | .count _ | .expiration => none

/-- The records that a run's updates write, in their order, whatever the handles. -/
def written (calls : List Call) : List BeaconRecord :=
  calls.filterMap fun call => call.operation.written?

@[simp] theorem written_cons (call : Call) (calls : List Call) :
    written (call :: calls) = call.operation.written?.toList ++ written calls := by
  cases kind : call.operation.written? <;> simp [written, kind]

def ofKey (key : IdentityKey) (records : List BeaconRecord) : List BeaconRecord :=
  records.filter fun record => record.key == key

@[simp] theorem ofKey_nil (key : IdentityKey) : ofKey key [] = [] := rfl

theorem ofKey_cons (key : IdentityKey) (record : BeaconRecord) (records : List BeaconRecord) :
    ofKey key (record :: records) = if record.key = key then record :: ofKey key records else ofKey key records := by
  by_cases same : record.key = key
  next => rw [ofKey, List.filter_cons_of_pos (by simpa using same), if_pos same, ofKey]
  next => rw [ofKey, List.filter_cons_of_neg (by simpa using same), if_neg same, ofKey]

@[simp] theorem ofKey_append (key : IdentityKey) (records more : List BeaconRecord) :
    ofKey key (records ++ more) = ofKey key records ++ ofKey key more :=
  List.filter_append ..

theorem ofKey_eq_nil_iff (key : IdentityKey) (records : List BeaconRecord) :
    ofKey key records = [] ↔ ∀ record ∈ records, record.key ≠ key := by
  simp [ofKey, List.filter_eq_nil_iff]

theorem get?_eq_head? (registry : Registry) (key : IdentityKey) :
    registry.get? key = (ofKey key registry.records).head? :=
  (List.head?_filter ..).symm

theorem isFresh_iff (registry : Registry) (now : Timestamp) (record : BeaconRecord) :
    registry.isFresh now record = true ↔
      (now.nanos - record.observedAt.nanos).toNat ≤ registry.expiration.nanos :=
  decide_eq_true_iff

theorem isFresh_observedAt (registry : Registry) (record : BeaconRecord) :
    registry.isFresh record.observedAt record = true := by
  rw [isFresh_iff]
  omega

/-- What an update leaves of one key's records. Those of other keys play no part in it. -/
def keeping (registry : Registry) (key : IdentityKey) (kept : List BeaconRecord)
    (record : BeaconRecord) : List BeaconRecord :=
  if record.key = key then [record] else kept.filter (registry.isFresh record.observedAt)

theorem ofKey_upsert (registry : Registry) (record : BeaconRecord) (key : IdentityKey) :
    ofKey key (registry.upsert record record.observedAt).records =
      registry.keeping key (ofKey key registry.records) record := by
  rw [upsert, List.filter_cons_of_pos (registry.isFresh_observedAt record), ofKey_cons, keeping]
  by_cases same : record.key = key
  next =>
    rw [if_pos same, if_pos same, List.cons_inj_right, ofKey_eq_nil_iff]
    intro other member
    simp only [List.mem_filter, bne_iff_ne] at member
    exact same ▸ member.1.2
  next =>
    rw [if_neg same, if_neg same]
    simp only [ofKey, List.filter_filter]
    apply List.filter_congr
    intro other _
    by_cases hit : other.key = key
    next => simp [hit, Ne.symm same]
    next => simp [beq_eq_false_iff_ne.mpr hit]

theorem get?_upsert_self (registry : Registry) (record : BeaconRecord) :
    (registry.upsert record record.observedAt).get? record.key = some record := by
  rw [get?_eq_head?, ofKey_upsert, keeping, if_pos rfl, List.head?_cons]

theorem after_of_written {operation : Operation} {record : BeaconRecord}
    (writes : operation.written? = some record) (registry : Registry) :
    registry.after operation = registry.upsert record record.observedAt := by
  cases operation <;> cases writes <;> rfl

theorem after_of_read {operation : Operation} (reads : operation.written? = none)
    (registry : Registry) : registry.after operation = registry := by
  cases operation <;> first | rfl | cases reads

/-- A run is told key by key. -/
theorem ofKey_run (registry : Registry) (calls : List Call) (key : IdentityKey) :
    ofKey key (registry.run calls).records =
      (written calls).foldl (registry.keeping key) (ofKey key registry.records) := by
  induction calls generalizing registry with
  | nil => rfl
  | cons call rest ih =>
    rw [run_cons, ih]
    cases kind : call.operation.written? with
    | none =>
      have same : (registry.call call).2 = registry := after_of_read kind registry
      simp only [same, written_cons, kind, Option.toList_none, List.nil_append]
    | some record =>
      have next : (registry.call call).2 = registry.upsert record record.observedAt :=
        after_of_written kind registry
      simp only [next, ofKey_upsert, written_cons, kind, Option.toList_some, List.singleton_append]
      rfl

/-- The record is the last of its key among those written, and no later one came after it had expired. -/
def LastsIn (expiration : Duration) (writes : List BeaconRecord) (record : BeaconRecord) : Prop :=
  ∃ before after, writes = before ++ record :: after ∧
    ∀ later ∈ after, later.key ≠ record.key ∧
      (later.observedAt.nanos - record.observedAt.nanos).toNat ≤ expiration.nanos

theorem lastsIn_concat (expiration : Duration) (writes : List BeaconRecord) (last record : BeaconRecord) :
    LastsIn expiration (writes ++ [last]) record ↔
      record = last ∨ LastsIn expiration writes record ∧ last.key ≠ record.key ∧
        (last.observedAt.nanos - record.observedAt.nanos).toNat ≤ expiration.nanos := by
  constructor
  · intro lasts
    obtain ⟨before, after, split, kept⟩ := lasts
    cases after using List.reverseRecOn with
    | nil =>
      have ends := (List.append_inj' split rfl).2
      exact .inl (List.singleton_inj.mp ends).symm
    | append_singleton after final =>
      rw [← List.cons_append, ← List.append_assoc] at split
      obtain ⟨earlier, ends⟩ := List.append_inj' split rfl
      cases ends
      refine .inr ⟨⟨before, after, earlier, ?_⟩, kept last (by simp)⟩
      intro later member
      exact kept later (by simp [member])
  · intro cases
    rcases cases with rfl | ⟨⟨before, after, rfl, kept⟩, passed⟩
    · exact ⟨writes, [], rfl, by simp⟩
    · refine ⟨before, after ++ [last], by simp, ?_⟩
      intro later member
      rcases List.mem_append.mp member with member | member
      · exact kept later member
      · cases List.mem_singleton.mp member
        exact passed

section

variable (expiration : Duration) (writes : List BeaconRecord) (key : IdentityKey)

theorem mem_kept_iff (record : BeaconRecord) :
    record ∈ writes.foldl (keeping { expiration := expiration } key) [] ↔
      record.key = key ∧ LastsIn expiration writes record := by
  induction writes using List.reverseRecOn with
  | nil => simp [LastsIn]
  | append_singleton writes last ih =>
    rw [List.foldl_append, List.foldl_cons, List.foldl_nil, lastsIn_concat, keeping]
    split
    case isTrue same =>
      rw [List.mem_singleton]
      constructor
      · intro is
        exact ⟨is ▸ same, .inl is⟩
      · intro held
        rcases held.2 with is | ⟨-, other, -⟩
        · exact is
        · exact absurd (same.trans held.1.symm) other
    case isFalse other =>
      rw [List.mem_filter, ih, isFresh_iff]
      constructor
      · intro kept
        have apart : last.key ≠ record.key := kept.1.1 ▸ other
        exact ⟨kept.1.1, .inr ⟨kept.1.2, apart, kept.2⟩⟩
      · intro held
        rcases held.2 with is | ⟨lasts, -, fresh⟩
        · exact absurd (is ▸ held.1) other
        · exact ⟨⟨held.1, lasts⟩, fresh⟩

theorem length_kept_le :
    (writes.foldl (keeping { expiration := expiration } key) []).length ≤ 1 := by
  induction writes using List.reverseRecOn with
  | nil => exact Nat.zero_le 1
  | append_singleton writes last ih =>
    rw [List.foldl_append, List.foldl_cons, List.foldl_nil, keeping]
    split
    · exact Nat.le_refl 1
    · exact Nat.le_trans (List.length_filter_le ..) ih

end

theorem get?_run_eq_some_iff (expiration : Duration) (calls : List Call) (key : IdentityKey)
    (record : BeaconRecord) :
    (run { expiration := expiration } calls).get? key = some record ↔
      record.key = key ∧ LastsIn expiration (written calls) record := by
  rw [← mem_kept_iff, get?_eq_head?, ofKey_run, ofKey_nil]
  have single := length_kept_le expiration (written calls) key
  cases kept : (written calls).foldl (keeping { expiration := expiration } key) [] with
  | nil => simp
  | cons first rest =>
    rw [kept, List.length_cons] at single
    have alone : rest = [] := List.length_eq_zero_iff.mp (by omega)
    simp [alone, eq_comm]

/-- After any calls, whatever their handles, a key has a record exactly when its last update is followed by
none that came later than the expiration allows. The record is then what that update wrote. -/
theorem call_get_run_iff (expiration : Duration) (calls : List Call) (handle : Nat) (key : IdentityKey)
    (record : BeaconRecord) :
    ((run { expiration := expiration } calls).call ⟨handle, .get key⟩).1 = .record (some record) ↔
      record.key = key ∧ LastsIn expiration (written calls) record := by
  rw [← get?_run_eq_some_iff, call, answer, Answer.record.injEq]

end BeaconWatch.Registry
