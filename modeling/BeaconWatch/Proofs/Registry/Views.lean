import BeaconWatch.Proofs.Registry.History
import Mathlib.Data.List.Nodup

/-!
What a registry shows. Its records have distinct keys, each the key of its own numbers, whatever calls were made;
so the reading operations agree with each other, through every handle.
-/

set_option autoImplicit false

namespace BeaconWatch.Registry

variable {registry : Registry} {operation : Operation} {record : BeaconRecord} {key : IdentityKey}

/-- What every update keeps up and no read checks. -/
structure IsConsistent (registry : Registry) : Prop where
  distinct : (registry.records.map BeaconRecord.key).Nodup
  keyed : ∀ record ∈ registry.records, record.key = ⟨record.major, record.minor⟩

theorem isConsistent_empty (expiration : Duration) : IsConsistent { expiration := expiration } :=
  ⟨List.nodup_nil, by simp⟩

theorem mem_upsert_iff {other : BeaconRecord} {now : Timestamp} : other ∈ (registry.upsert record now).records ↔
    (other = record ∨ other ∈ registry.records ∧ other.key ≠ record.key) ∧ registry.isFresh now other = true := by
  simp [upsert]

theorem IsConsistent.upsert (consistent : registry.IsConsistent) (keyed : record.key = ⟨record.major, record.minor⟩)
    (now : Timestamp) : (registry.upsert record now).IsConsistent where
  distinct := by
    -- The record's own key is free again before the record is put in, and the sweep only removes.
    have others : (registry.records.filter fun other => other.key != record.key).map BeaconRecord.key
        |>.Nodup := consistent.distinct.sublist (List.filter_sublist.map _)
    have fresh : record.key ∉ (registry.records.filter fun other => other.key != record.key).map BeaconRecord.key := by
      simp
    exact (List.nodup_cons.mpr ⟨fresh, others⟩).sublist (List.filter_sublist.map _)
  keyed := by
    intro other member
    rcases (mem_upsert_iff.mp member).1 with rfl | ⟨held, -⟩
    next => exact keyed
    next => exact consistent.keyed other held

theorem key_of_written (writes : operation.written? = some record) : record.key = ⟨record.major, record.minor⟩ := by
  cases operation <;> cases writes <;> rfl

theorem IsConsistent.after (consistent : registry.IsConsistent) (operation : Operation) :
    (registry.after operation).IsConsistent := by
  cases kind : operation.written? with
  | none => rwa [after_of_read kind]
  | some record =>
    rw [after_of_written kind]
    exact consistent.upsert (key_of_written kind) record.observedAt

theorem IsConsistent.run (consistent : registry.IsConsistent) (calls : List Call) :
    (registry.run calls).IsConsistent := by
  induction calls generalizing registry with
  | nil => exact consistent
  | cons call rest ih => exact ih (consistent.after call.operation)

theorem expiration_after (registry : Registry) (operation : Operation) :
    (registry.after operation).expiration = registry.expiration := by
  cases operation <;> rfl

theorem expiration_run (registry : Registry) (calls : List Call) :
    (registry.run calls).expiration = registry.expiration := by
  induction calls generalizing registry with
  | nil => rfl
  | cons call rest ih => exact (ih _).trans (registry.expiration_after call.operation)

theorem IsConsistent.get?_eq_some_iff (consistent : registry.IsConsistent) :
    registry.get? key = some record ↔ record ∈ registry.records ∧ record.key = key := by
  constructor
  next =>
    intro found
    exact ⟨List.mem_of_find?_eq_some found, by simpa using List.find?_some found⟩
  next =>
    intro ⟨member, same⟩
    -- The search stops at the first record of the key, and there is no second.
    cases found : registry.get? key with
    | none => exact absurd (List.find?_eq_none.mp found record member) (by simp [same])
    | some first =>
      have own : first.key = key := by simpa using List.find?_some found
      have held : first ∈ registry.records := List.mem_of_find?_eq_some found
      rw [List.inj_on_of_nodup_map consistent.distinct held member (own.trans same.symm)]

-- A record was seen on one of the two intake paths or on none.
theorem size_eq_counts (registry : Registry) : registry.size = registry.countBySource .iBeacon +
    registry.countBySource .overflowArea + registry.records.countP fun record => record.source == none := by
  simp only [size, countBySource]
  induction registry.records with
  | nil => rfl
  | cons record rest ih =>
    rw [List.length_cons, ih]
    rcases seen : record.source with _ | _ | _
    next => simp [seen]; omega
    next => simp [seen]; omega
    next => simp [seen]; omega

-- The time that an update goes by; a read goes by none.
def Operation.updateTime? : Operation → Option Timestamp
  | .update _ _ now | .record _ now => some now
  | .snapshot | .get _ | .age _ _ | .size | .count _ | .expiration => none

theorem age_le_of_update {now : Timestamp} (updates : operation.updateTime? = some now)
    (member : record ∈ (registry.after operation).records) : (record.age now).nanos ≤ registry.expiration.nanos := by
  cases operation <;> cases updates <;> exact of_decide_eq_true (mem_upsert_iff.mp member).2

theorem age_le_of_run {calls earlier : List Call} {last : Call} {now : Timestamp} (split : calls = earlier ++ [last])
    (updates : last.operation.updateTime? = some now) (member : record ∈ (registry.run calls).records) :
    (record.age now).nanos ≤ registry.expiration.nanos := by
  have stepped : registry.run calls = (registry.run earlier).after last.operation := by
    simp [split, run, call]
  rw [stepped] at member
  exact registry.expiration_run earlier ▸ age_le_of_update updates member

/-- After any calls, whatever their handles, one list of records tells what every handle shows. Its keys are distinct,
and each is the key of its record's numbers; the list is the snapshot, a key has the record of that key in it, its
length is the size and the sum of the counts by source, and right after an update no record in it is older at the
update's time than the expiration. -/
theorem views_agree (expiration : Duration) (calls : List Call) :
    ∃ records : List BeaconRecord, (records.map BeaconRecord.key).Nodup ∧
      (∀ record ∈ records, record.key = ⟨record.major, record.minor⟩) ∧
      (∀ earlier last now, calls = earlier ++ [last] → last.operation.updateTime? = some now →
        ∀ record ∈ records, (record.age now).nanos ≤ expiration.nanos) ∧
      ∀ handle, let ask := fun operation => ((run { expiration := expiration } calls).call ⟨handle, operation⟩).1
        ask .snapshot = .records records ∧
        (∀ key, ∃ found, ask (.get key) = .record found ∧
          ∀ record, found = some record ↔ record ∈ records ∧ record.key = key) ∧
        (∃ isEmpty, ask .size = .size records.length isEmpty ∧ (isEmpty = true ↔ records.length = 0)) ∧
        ∃ direct overflow, ask (.count .iBeacon) = .count direct ∧ ask (.count .overflowArea) = .count overflow ∧
          records.length = direct + overflow + records.countP fun record => record.source == none := by
  have consistent := (isConsistent_empty expiration).run calls
  refine ⟨_, consistent.distinct, consistent.keyed, ?_, ?_⟩
  next =>
    intro earlier last now split updates record member
    exact age_le_of_run split updates member
  next =>
    intro handle ask
    refine ⟨rfl, ?_, ⟨_, rfl, by simp [isEmpty, size]⟩, ⟨_, _, rfl, rfl, size_eq_counts _⟩⟩
    intro key
    exact ⟨_, rfl, fun record => consistent.get?_eq_some_iff⟩

-- Three beacons through three handles; the last update comes too late for the first of them.
theorem views_agree_swept :
    let expiration : Duration := ⟨30000000000, by decide⟩
    let late : Timestamp := ⟨31000000000, by decide, by decide⟩
    let first : Call := ⟨0, .record ⟨2, 7777, -59, -60, .iBeacon⟩ .epoch⟩
    let last : Call := ⟨2, .update ⟨9, 10, -59⟩ (-70) late⟩
    let calls := [first, ⟨1, .record ⟨3, 1234, -200, -40, .overflowArea⟩ late⟩] ++ [last]
    let kept : List BeaconRecord :=
      [⟨⟨9, 10⟩, 9, 10, -59, -70, late, none⟩, ⟨⟨3, 1234⟩, 3, 1234, -200, -40, late, some .overflowArea⟩]
    last.operation.updateTime? = some late ∧
      ((run { expiration := expiration } calls).call ⟨0, .snapshot⟩).1 = .records kept ∧
      (∀ record ∈ kept, (record.age late).nanos ≤ expiration.nanos) ∧
      ∃ direct overflow, kept.length = direct + overflow + kept.countP fun record => record.source == none := by
  intro expiration late first last calls kept
  have shown : ((run { expiration := expiration } calls).call ⟨0, .snapshot⟩).1 = .records kept := by decide
  obtain ⟨records, -, -, fresh, views⟩ := views_agree expiration calls
  obtain ⟨same, -, -, direct, overflow, -, -, counted⟩ := views 0
  obtain rfl := Answer.records.inj (same.symm.trans shown)
  exact ⟨rfl, shown, fresh _ last late rfl rfl, direct, overflow, counted⟩

end BeaconWatch.Registry
