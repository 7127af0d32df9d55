import Mathlib.Data.List.Basic
import BeaconWatch.Json.Text

/-!
What is read from a text. Its numbers stand in it as they are written; none is made by a conversion.
-/

set_option autoImplicit false

namespace BeaconWatch.Json

inductive IsWritten : Json → Prop
  | null : IsWritten .null
  | bool (value : Bool) : IsWritten (.bool value)
  | numeral (value : Numeral) : IsWritten (.numeral value)
  | string (text : Option String) : IsWritten (.string text)
  | array {items : List Json} (written : ∀ item ∈ items, IsWritten item) : IsWritten (.array items)
  | object {members : List (Option String × Json)} (written : ∀ member ∈ members, IsWritten member.2) :
      IsWritten (.object members)
  | broken : IsWritten .broken

theorem isWritten_name {value : Json} (written : IsWritten value) (expected text : List Char) :
    IsWritten (name value expected text).1 := by
  rw [name]
  split
  · exact written
  · exact .broken

variable {fuel : Nat}

theorem isWritten_readValue_succ (items : ∀ text, ∀ item ∈ (readItems fuel text).1, IsWritten item)
    (members : ∀ text, ∀ member ∈ (readMembers fuel text).1, IsWritten member.2) (text : List Char) :
    IsWritten (readValue (fuel + 1) text).1 := by
  rw [readValue]
  split
  · split
    · exact .object (by simp)
    · exact .object (members _)
  · split
    · exact .array (by simp)
    · exact .array (items _)
  · split
    · exact .string _
    · exact .broken
  · exact isWritten_name (.bool true) _ _
  · exact isWritten_name (.bool false) _ _
  · exact isWritten_name .null _ _
  · split
    · exact .numeral _
    · exact .broken

theorem isWritten_readItems_succ (values : ∀ text, IsWritten (readValue fuel text).1)
    (items : ∀ text, ∀ item ∈ (readItems fuel text).1, IsWritten item) (text : List Char) :
    ∀ item ∈ (readItems (fuel + 1) text).1, IsWritten item := by
  have value := values text
  rw [readItems]
  split
  next read =>
    rw [read] at value
    simpa using ⟨value, .broken⟩
  next read =>
    rw [read] at value
    split
    · exact List.forall_mem_cons.mpr ⟨value, items _⟩
    · simpa using value
    · simpa using ⟨value, .broken⟩

theorem isWritten_readMembers_succ (values : ∀ text, IsWritten (readValue fuel text).1)
    (members : ∀ text, ∀ member ∈ (readMembers fuel text).1, IsWritten member.2) (text : List Char) :
    ∀ member ∈ (readMembers (fuel + 1) text).1, IsWritten member.2 := by
  have broken : ∀ member ∈ [((none : Option String), Json.broken)], IsWritten member.2 := by simpa using .broken
  rw [readMembers]
  split
  · split
    · exact broken
    · split
      next after _ =>
        have value := values after
        split
        next read =>
          rw [read] at value
          exact List.forall_mem_cons.mpr ⟨value, broken⟩
        next read =>
          rw [read] at value
          split
          · exact List.forall_mem_cons.mpr ⟨value, members _⟩
          · simpa using value
          · exact List.forall_mem_cons.mpr ⟨value, broken⟩
      next => exact List.forall_mem_cons.mpr ⟨.broken, broken⟩
  · exact broken

/-- The three readers call one another with less fuel, so this is one induction on it. -/
theorem isWritten_read (fuel : Nat) : (∀ text, IsWritten (readValue fuel text).1) ∧
    (∀ text, ∀ item ∈ (readItems fuel text).1, IsWritten item) ∧
    ∀ text, ∀ member ∈ (readMembers fuel text).1, IsWritten member.2 := by
  induction fuel with
  | zero =>
    refine ⟨fun text => ?_, fun text => ?_, fun text => ?_⟩
    · rw [readValue]
      exact .broken
    · rw [readItems]
      simpa using .broken
    · rw [readMembers]
      simpa using .broken
  | succ fuel ih =>
    obtain ⟨values, items, members⟩ := ih
    exact ⟨isWritten_readValue_succ items members, isWritten_readItems_succ values items,
      isWritten_readMembers_succ values members⟩

theorem isWritten_ofText (text : String) : IsWritten (Document.ofText text).value := by
  rw [Document.ofText]
  have written := (isWritten_read (2 * text.toList.length + 2)).1 text.toList
  split <;> simpa [*] using written

end BeaconWatch.Json
