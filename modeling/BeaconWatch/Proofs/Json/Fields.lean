import Mathlib.Data.List.Basic
import BeaconWatch.Json.Fields

/-!
Where the reading of a structure can abort: only in the readers of its fields, at a member with the field's name or at
the field's place in an array.
-/

set_option autoImplicit false

namespace BeaconWatch.Json

variable {α β : Type} {reading : Reading α} {abort : Abort}

/-- What a reading aborts with, if it does. -/
def Reading.abort? : Reading α → Option Abort
  | .error (.aborted abort) => some abort
  | _ => none

theorem Reading.abort?_eq_some_iff : reading.abort? = some abort ↔ reading = .error (.aborted abort) := by
  rcases reading with (_ | _ | _ | _ | _ | _ | other) | value <;> simp [abort?]

theorem abort?_bind_iff {next : α → Reading β} : (reading >>= next).abort? = some abort ↔
    reading.abort? = some abort ∨ ∃ value, reading = .ok value ∧ (next value).abort? = some abort := by
  simp only [Reading.abort?_eq_some_iff]
  cases reading <;> simp [bind, Except.bind]

theorem abort?_bind_eq_none {next : α → Reading β} (never : reading.abort? = none)
    (later : ∀ value, (next value).abort? = none) : (reading >>= next).abort? = none := by
  rw [Option.eq_none_iff_forall_ne_some]
  intro abort aborted
  rcases abort?_bind_iff.mp aborted with here | ⟨value, -, there⟩
  · exact absurd (here.symm.trans never) (by simp)
  · exact absurd (there.symm.trans (later value)) (by simp)

theorem abort?_map (make : α → β) : Reading.abort? (reading.map make) = reading.abort? := by
  rcases reading with (_ | _ | _ | _ | _ | _ | other) | value <;> rfl

theorem bind_eq_ok_iff {next : α → Reading β} {result : β} : (reading >>= next) = .ok result ↔
    ∃ value, reading = .ok value ∧ next value = .ok result := by
  cases reading <;> simp [bind, Except.bind]

theorem map_eq_ok_iff {make : α → β} {result : β} : reading.map make = .ok result ↔
    ∃ value, reading = .ok value ∧ make value = result := by
  cases reading <;> simp [Except.map]

/-- What stands in a document for the field of a structure with this name and place. -/
def Holds (json : Json) (name : String) (place : Nat) (value : Json) : Prop :=
  match json with
  | .object members => (some name, value) ∈ members
  | .array items => items[place]? = some value
  | _ => False

namespace Fields

-- The name of a field and what its reader aborts with.
abbrev Entry := String × (Json → Option Abort)

/-- The fields of a structure in their order, as far as their readers abort. -/
structure Lists (fields : Fields α) (entries : List Entry) : Prop where
  offer : ∀ {member value slots taken abort}, fields.offer member value slots = some taken →
    taken.abort? = some abort → ∃ entry ∈ entries, entry.1 = member ∧ entry.2 value = some abort
  finish : ∀ slots, (fields.finish slots).abort? = none
  ofItems : ∀ {items abort}, (fields.ofItems items).abort? = some abort →
    ∃ (place : Nat) (entry : Entry) (value : Json),
      entries[place]? = some entry ∧ items[place]? = some value ∧ entry.2 value = some abort
  rest : ∀ {items value rest}, fields.ofItems items = .ok (value, rest) → rest = items.drop entries.length

theorem lists_one (fieldName : String) (read : Json → Reading α) (absent : Option α) :
    (one fieldName read absent).Lists [(fieldName, fun value => (read value).abort?)] where
  offer := by
    intro member value slots taken abort offered aborted
    simp only [one] at offered
    split at offered
    next same =>
      split at offered
      next =>
        cases offered
        cases aborted
      next =>
        cases offered
        exact ⟨_, List.mem_singleton.mpr rfl, same.symm, (abort?_map _).symm.trans aborted⟩
    next => cases offered
  finish := by
    intro slots
    cases slots <;> cases absent <;> rfl
  ofItems := by
    intro items abort aborted
    cases items with
    | nil => cases aborted
    | cons item rest =>
      simp only [one, abort?_map] at aborted
      exact ⟨0, _, item, rfl, rfl, aborted⟩
  rest := by
    intro items value rest taken
    cases items with
    | nil => cases taken
    | cons item others =>
      obtain ⟨_, -, same⟩ := map_eq_ok_iff.mp taken
      cases same
      rfl

theorem lists_required (fieldName : String) (read : Json → Reading α) :
    (required fieldName read).Lists [(fieldName, fun value => (read value).abort?)] :=
  lists_one fieldName read none

variable {first : Fields α} {second : Fields β} {entries others : List Entry}

theorem Lists.both (lists : first.Lists entries) (also : second.Lists others) :
    (first.both second).Lists (entries ++ others) where
  offer := by
    intro member value slots taken abort offered aborted
    simp only [Fields.both] at offered
    split at offered
    next given here =>
      cases offered
      obtain ⟨entry, inside, named⟩ := lists.offer here ((abort?_map _).symm.trans aborted)
      exact ⟨entry, List.mem_append_left _ inside, named⟩
    next =>
      obtain ⟨given, there, same⟩ := Option.map_eq_some_iff.mp offered
      cases same
      obtain ⟨entry, inside, named⟩ := also.offer there ((abort?_map _).symm.trans aborted)
      exact ⟨entry, List.mem_append_right _ inside, named⟩
  finish := by
    intro slots
    apply abort?_bind_eq_none (lists.finish slots.1)
    intro _
    exact abort?_bind_eq_none (also.finish slots.2) fun _ => rfl
  ofItems := by
    intro items abort aborted
    rcases abort?_bind_iff.mp aborted with here | ⟨⟨_, rest⟩, taken, later⟩
    · obtain ⟨place, entry, value, listed, held, reason⟩ := lists.ofItems here
      have inside := (List.getElem?_eq_some_iff.mp listed).1
      exact ⟨place, entry, value, (List.getElem?_append_left inside).trans listed, held, reason⟩
    rcases abort?_bind_iff.mp later with there | ⟨_, -, last⟩
    · obtain ⟨place, entry, value, listed, held, reason⟩ := also.ofItems there
      refine ⟨entries.length + place, entry, value, ?_, ?_, reason⟩
      · rw [List.getElem?_append_right (Nat.le_add_right _ _), Nat.add_sub_cancel_left, listed]
      · rwa [lists.rest taken, List.getElem?_drop] at held
    · cases last
  rest := by
    intro items value rest taken
    obtain ⟨⟨_, middle⟩, here, later⟩ := bind_eq_ok_iff.mp taken
    obtain ⟨⟨_, last⟩, there, same⟩ := bind_eq_ok_iff.mp later
    cases same
    rw [also.rest there, lists.rest here, List.drop_drop, List.length_append]

theorem Lists.map (lists : first.Lists entries) (make : α → β) : (first.map make).Lists entries where
  offer := lists.offer
  finish := by
    intro slots
    exact (abort?_map make).trans (lists.finish slots)
  ofItems := by
    intro items abort aborted
    exact lists.ofItems ((abort?_map _).symm.trans aborted)
  rest := by
    intro items value rest taken
    obtain ⟨_, given, same⟩ := map_eq_ok_iff.mp taken
    cases same
    exact lists.rest given

theorem Lists.collect (lists : first.Lists entries) {members : List (Option String × Json)} {slots : first.Slots}
    (aborted : (first.collect members slots).abort? = some abort) :
    ∃ entry ∈ entries, ∃ value, (some entry.1, value) ∈ members ∧ entry.2 value = some abort := by
  induction members generalizing slots with
  | nil => cases aborted
  | cons pair rest ih =>
    have later {slots : first.Slots} (aborted : (first.collect rest slots).abort? = some abort) :
        ∃ entry ∈ entries, ∃ value, (some entry.1, value) ∈ pair :: rest ∧ entry.2 value = some abort := by
      obtain ⟨entry, inside, value, held, reason⟩ := ih aborted
      exact ⟨entry, inside, value, List.mem_cons_of_mem _ held, reason⟩
    obtain ⟨_ | member, value⟩ := pair
    · cases aborted
    · rw [Fields.collect] at aborted
      split at aborted
      next => exact later aborted
      next => exact later aborted
      next failure offered =>
        obtain ⟨entry, inside, rfl, reason⟩ := lists.offer offered aborted
        exact ⟨entry, inside, value, List.mem_cons_self, reason⟩

/-- A reading that aborts has met the value of some field at which that field's reader aborts. -/
theorem Lists.read (lists : first.Lists entries) {json : Json} (aborted : (first.read json).abort? = some abort) :
    ∃ place entry value, entries[place]? = some entry ∧ json.Holds entry.1 place value ∧ entry.2 value = some abort := by
  cases json with
  | object members =>
    rcases abort?_bind_iff.mp aborted with here | ⟨slots, -, later⟩
    · obtain ⟨entry, inside, value, held, reason⟩ := lists.collect here
      obtain ⟨place, listed⟩ := List.mem_iff_getElem?.mp inside
      exact ⟨place, entry, value, listed, held, reason⟩
    · exact absurd (later.symm.trans (lists.finish slots)) (by simp)
  | array items =>
    rcases abort?_bind_iff.mp aborted with here | ⟨⟨_, rest⟩, -, later⟩
    · exact lists.ofItems here
    · simp only at later
      split at later <;> cases later
  | _ => cases aborted

theorem Lists.abort?_read_eq_none (lists : first.Lists entries)
    (never : ∀ entry ∈ entries, ∀ value, entry.2 value = none) (json : Json) : (first.read json).abort? = none := by
  rw [Option.eq_none_iff_forall_ne_some]
  intro abort aborted
  obtain ⟨place, entry, value, listed, -, reason⟩ := lists.read aborted
  exact absurd (reason.symm.trans (never entry (List.mem_of_getElem? listed) value)) (by simp)

end Fields

end BeaconWatch.Json
