import BeaconWatch.Error
import BeaconWatch.Json

/-!
Reading structures. The members of an object are taken in the order of the text and the first
failure ends the reading; missing fields are found at the end, in their declared order. An array of
exactly the fields in that order is read as well.
-/

set_option autoImplicit false

namespace BeaconWatch.Json

inductive ReadFailure
  | malformed
  | missingField (name : String)
  | duplicateField (name : String)
  | unknownPath (name : String)
  | badUuid (error : Error)
  | negativeSeconds (magnitude : Double)
  | aborted (abort : Abort)
  deriving DecidableEq

/-- A failure has a message only where the text was JSON of the right form. -/
def ReadFailure.message? : ReadFailure → Option String
  | malformed | aborted _ => none
  | missingField name => some s!"missing field `{name}`"
  | duplicateField name => some s!"duplicate field `{name}`"
  | unknownPath name =>
      some s!"unknown variant `{name}`, expected `IBeacon` or `OverflowArea`"
  | badUuid error => some error.message
  | negativeSeconds magnitude => some ("invalid duration: -" ++ magnitude.shortest.text)

abbrev Reading (α : Type) := Except ReadFailure α

/-- The fields of a structure: slots that fill up while members are offered to them, and what the
filled slots make. -/
structure Fields (α : Type) where
  Slots : Type
  empty : Slots
  -- Takes a member into its slot; nothing if no field has its name.
  offer : String → Json → Slots → Option (Reading Slots)
  finish : Slots → Reading α
  -- Reads the fields from the items of an array, and gives the items left over.
  ofItems : List Json → Reading (α × List Json)

namespace Fields

variable {α β : Type}

/-- One field; `absent` is its value when it is missing, if it may be. -/
def one (fieldName : String) (read : Json → Reading α) (absent : Option α) : Fields α where
  Slots := Option α
  empty := none
  offer member value slot :=
    if member = fieldName then
      match slot with
      | some _ => some (.error (.duplicateField fieldName))
      | none => some ((read value).map some)
    else
      none
  finish
    | some value => .ok value
    | none =>
        match absent with
        | some value => .ok value
        | none => .error (.missingField fieldName)
  ofItems
    | [] => .error .malformed
    | item :: rest => (read item).map fun value => (value, rest)

def required (fieldName : String) (read : Json → Reading α) : Fields α :=
  one fieldName read none

def both (first : Fields α) (second : Fields β) : Fields (α × β) where
  Slots := first.Slots × second.Slots
  empty := (first.empty, second.empty)
  offer member value slots :=
    match first.offer member value slots.1 with
    | some taken => some (taken.map fun slot => (slot, slots.2))
    | none => (second.offer member value slots.2).map fun taken =>
        taken.map fun slot => (slots.1, slot)
  finish slots := do
    let a ← first.finish slots.1
    let b ← second.finish slots.2
    .ok (a, b)
  ofItems items := do
    let (a, items) ← first.ofItems items
    let (b, items) ← second.ofItems items
    .ok ((a, b), items)

def map (make : α → β) (fields : Fields α) : Fields β where
  Slots := fields.Slots
  empty := fields.empty
  offer := fields.offer
  finish slots := (fields.finish slots).map make
  ofItems items := (fields.ofItems items).map fun (value, rest) => (make value, rest)

/-- Offers members one after another; one that no field takes is skipped. -/
def collect (fields : Fields α) : List (Option String × Json) → fields.Slots →
    Reading fields.Slots
  | [], slots => .ok slots
  | (none, _) :: _, _ => .error .malformed
  | (some member, value) :: rest, slots =>
      match fields.offer member value slots with
      | none => fields.collect rest slots
      | some (.ok slots) => fields.collect rest slots
      | some (.error failure) => .error failure

def read (fields : Fields α) : Json → Reading α
  | .object members => do
      let slots ← fields.collect members fields.empty
      fields.finish slots
  | .array items => do
      let (value, rest) ← fields.ofItems items
      if rest.isEmpty then .ok value else .error .malformed
  | _ => .error .malformed

end Fields

end BeaconWatch.Json
