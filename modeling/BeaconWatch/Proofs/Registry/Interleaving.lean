import BeaconWatch.Proofs.Registry.History

/-!
Updates of two producers that share a registry. While all of them fall into one expiration window, the order
in which those of one producer come between those of the other makes no difference to any key.
-/

set_option autoImplicit false

namespace BeaconWatch

/-- The third list is made of the first two, each in its own order. -/
inductive Interleaves {α : Type} : List α → List α → List α → Prop
  | nil : Interleaves [] [] []
  | left {item : α} {left right merged : List α} :
      Interleaves left right merged → Interleaves (item :: left) right (item :: merged)
  | right {item : α} {left right merged : List α} :
      Interleaves left right merged → Interleaves left (item :: right) (item :: merged)

namespace Interleaves

variable {α β : Type} {left right merged : List α}

theorem filterMap (choose : α → Option β) (interleaves : Interleaves left right merged) :
    Interleaves (left.filterMap choose) (right.filterMap choose) (merged.filterMap choose) := by
  induction interleaves with
  | nil => exact .nil
  | @left item _ _ _ _ ih =>
    cases chosen : choose item with
    | none => simpa [chosen] using ih
    | some value => simpa [chosen] using ih.left
  | @right item _ _ _ _ ih =>
    cases chosen : choose item with
    | none => simpa [chosen] using ih
    | some value => simpa [chosen] using ih.right

theorem mem_iff (interleaves : Interleaves left right merged) (item : α) :
    item ∈ merged ↔ item ∈ left ++ right := by
  induction interleaves with
  | nil => rfl
  | left _ ih => simp [ih]
  | right _ ih => simp [ih, or_left_comm]

theorem eq_left (interleaves : Interleaves left [] merged) : merged = left := by
  generalize none : ([] : List α) = right at interleaves
  induction interleaves with
  | nil => rfl
  | left _ ih => rw [ih none]
  | right => cases none

theorem eq_right (interleaves : Interleaves [] right merged) : merged = right := by
  generalize none : ([] : List α) = left at interleaves
  induction interleaves with
  | nil => rfl
  | left => cases none
  | right _ ih => rw [ih none]

theorem filter (test : α → Bool) (interleaves : Interleaves left right merged) :
    Interleaves (left.filter test) (right.filter test) (merged.filter test) := by
  simpa only [List.filterMap_eq_filter] using interleaves.filterMap (Option.guard fun item => test item)

theorem filter_eq_append {test : α → Bool} (interleaves : Interleaves left right merged)
    (apart : left.filter test = [] ∨ right.filter test = []) :
    merged.filter test = left.filter test ++ right.filter test := by
  have parts := interleaves.filter test
  rcases apart with none | none
  · rw [none] at parts ⊢
    exact parts.eq_right
  · rw [none] at parts ⊢
    rw [List.append_nil]
    exact parts.eq_left

end Interleaves

namespace Registry

-- What is left of older records by the updates of other keys.
def unswept (registry : Registry) (writes kept : List BeaconRecord) : List BeaconRecord :=
  kept.filter fun record => writes.all fun later => registry.isFresh later.observedAt record

theorem unswept_concat (registry : Registry) (writes kept : List BeaconRecord) (last : BeaconRecord) :
    registry.unswept (writes ++ [last]) kept =
      (registry.unswept writes kept).filter (registry.isFresh last.observedAt) := by
  simp [unswept, List.filter_filter, Bool.and_comm]

-- Close writes never sweep each other away.
theorem foldl_keeping (registry : Registry) (key : IdentityKey) (kept : List BeaconRecord)
    {writes : List BeaconRecord}
    (close : ∀ earlier ∈ writes, ∀ later ∈ writes, registry.isFresh later.observedAt earlier = true) :
    writes.foldl (registry.keeping key) kept =
      match (ofKey key writes).getLast? with
      | some last => [last]
      | none => registry.unswept writes kept := by
  induction writes using List.reverseRecOn with
  | nil => exact (List.filter_eq_self.mpr fun _ _ => rfl).symm
  | append_singleton writes final ih =>
    have before := ih (fun earlier first later second =>
      close earlier (List.mem_append_left _ first) later (List.mem_append_left _ second))
    rw [List.foldl_append, List.foldl_cons, List.foldl_nil, before, keeping, ofKey_append, ofKey_cons, ofKey_nil]
    by_cases same : final.key = key
    next => simp [same]
    next =>
      rw [if_neg same, if_neg same, List.append_nil]
      cases found : (ofKey key writes).getLast? with
      | none => rw [unswept_concat]
      | some last =>
        have member : last ∈ writes := (List.mem_filter.mp (List.mem_of_getLast? found)).1
        have stays := close last (List.mem_append_left _ member) final (by simp)
        simp [stays]

section

variable {registry : Registry} {left right merged : List Call}
  (apart : ∀ mine ∈ written left, ∀ theirs ∈ written right, mine.key ≠ theirs.key)
  (close : ∀ earlier ∈ written left ++ written right, ∀ later ∈ written left ++ written right,
    later.observedAt.nanos - earlier.observedAt.nanos ≤ registry.expiration.nanos)
  (interleaves : Interleaves left right merged)

include apart

theorem ofKey_eq_nil (key : IdentityKey) : ofKey key (written left) = [] ∨ ofKey key (written right) = [] := by
  by_cases none : ofKey key (written left) = []
  next => exact .inl none
  next =>
    right
    rw [ofKey_eq_nil_iff] at none ⊢
    push Not at none
    obtain ⟨mine, member, same⟩ := none
    intro theirs other
    exact same ▸ (apart mine member theirs other).symm

include close interleaves

-- Nothing here depends on how the two producers' calls alternate.
theorem get?_run_merged (key : IdentityKey) :
    (registry.run merged).get? key =
      match (ofKey key (written left) ++ ofKey key (written right)).getLast? with
      | some last => some last
      | none => (registry.unswept (written left ++ written right) (ofKey key registry.records)).head? := by
  have writes : Interleaves (written left) (written right) (written merged) := interleaves.filterMap _
  have fresh : ∀ earlier ∈ written merged, ∀ later ∈ written merged,
      registry.isFresh later.observedAt earlier = true := by
    intro earlier first later second
    rw [writes.mem_iff] at first second
    have near := close earlier first later second
    rw [isFresh_iff]
    omega
  have passed (kept : List BeaconRecord) :
      registry.unswept (written merged) kept = registry.unswept (written left ++ written right) kept := by
    apply List.filter_congr
    intro record _
    rw [Bool.eq_iff_iff, List.all_eq_true, List.all_eq_true]
    simp only [writes.mem_iff]
  have mine : ofKey key (written merged) = ofKey key (written left) ++ ofKey key (written right) :=
    writes.filter_eq_append (ofKey_eq_nil apart key)
  rw [get?_eq_head?, ofKey_run, foldl_keeping registry key _ fresh, mine, passed]
  split <;> rfl

end

theorem getLast?_ofKey (before : List BeaconRecord) {after : List BeaconRecord} {record : BeaconRecord}
    (last : ∀ later ∈ after, later.key ≠ record.key) :
    (ofKey record.key (before ++ record :: after)).getLast? = some record := by
  have ends : ofKey record.key after = [] := (ofKey_eq_nil_iff ..).mpr last
  rw [ofKey_append, ofKey_cons, if_pos rfl, ends, List.getLast?_concat]

/-- Two producers with keys of their own, all of whose updates fall into one expiration window, leave the
same records whatever the order between them, among these the last update of every key. The registry they
start from may hold anything. -/
theorem run_interleaved {registry : Registry} {left right one other : List Call}
    (apart : ∀ mine ∈ written left, ∀ theirs ∈ written right, mine.key ≠ theirs.key)
    (close : ∀ earlier ∈ written left ++ written right, ∀ later ∈ written left ++ written right,
      later.observedAt.nanos - earlier.observedAt.nanos ≤ registry.expiration.nanos)
    (merged : Interleaves left right one) (otherwise : Interleaves left right other) :
    (registry.run one).get? = (registry.run other).get? ∧
      ∀ before record after, written left = before ++ record :: after ∨ written right = before ++ record :: after →
        (∀ later ∈ after, later.key ≠ record.key) → (registry.run one).get? record.key = some record := by
  constructor
  · funext key
    rw [get?_run_merged apart close merged, get?_run_merged apart close otherwise]
  · intro before record after producer last
    have ends := getLast?_ofKey before last
    have alone := ofKey_eq_nil apart record.key
    rw [get?_run_merged apart close merged]
    rcases producer with mine | mine <;> rw [← mine] at ends
    · rw [alone.resolve_left (by simp [← List.getLast?_eq_none_iff, ends]), List.append_nil, ends]
    · rw [alone.resolve_right (by simp [← List.getLast?_eq_none_iff, ends]), List.nil_append, ends]

-- One producer sees a beacon twice, five seconds apart, and another one sees another beacon, next to a record
-- from long ago. The time of the second sighting is still within the window.
theorem run_interleaved_pair :
    let five : Timestamp := ⟨5 * nanosPerSecond, by decide, by decide⟩
    let old : BeaconRecord := .ofIdentity ⟨3, 3, -40⟩ (-50) ⟨-600 * nanosPerSecond, by decide, by decide⟩
    let registry : Registry := { expiration := ⟨5 * nanosPerSecond, by decide⟩, records := [old] }
    let first : Call := ⟨0, .update ⟨1, 1, -59⟩ (-70) .epoch⟩
    let second : Call := ⟨0, .update ⟨1, 1, -61⟩ (-82) five⟩
    let between : Call := ⟨1, .record ⟨2, 7777, -59, -60, .overflowArea⟩ .epoch⟩
    (registry.run [first, between, second]).get? = (registry.run [between, first, second]).get? ∧
      (registry.run [first, between, second]).get? ⟨1, 1⟩ = some (.ofIdentity ⟨1, 1, -61⟩ (-82) five) := by
  intro five old registry first second between
  have runs := @run_interleaved registry [first, second] [between] _ _ (by decide) (by decide)
    (.left (.right (.left .nil))) (.right (.left (.left .nil)))
  exact ⟨runs.1, runs.2 [.ofIdentity ⟨1, 1, -59⟩ (-70) .epoch] _ [] (.inl rfl) (by simp)⟩

end Registry

end BeaconWatch
