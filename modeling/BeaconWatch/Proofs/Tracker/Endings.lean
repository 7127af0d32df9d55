import BeaconWatch.Proofs.Tracker.Commands

/-!
What lasts in a tracker: a pump that has ended, and a token that is cancelled. While nothing waits for a pump
and nothing is sent, nothing is recorded.
-/

set_option autoImplicit false

namespace BeaconWatch

namespace Lane

variable {callback : Option Callback} {asked : Bool} {lane left : Lane} {given taken : List Sighting}

theorem Step.closed (step : lane.Step callback asked given taken left) (gone : lane.pump ≠ .running)
    (closed : lane.channel.hasReceiver = false) : left.channel.hasReceiver = false := by
  cases step with
  | same | senderDropped => exact closed
  | sent _ receiving => exact absurd (receiving.symm.trans closed) (by decide)
  | looked shows =>
    rw [shows.of_idle.1]
    exact closed
  | taken shows | failed shows => exact absurd shows.of_took.1 gone
  | stopped shows => exact absurd shows.of_ended.1 gone

theorem Step.drained (step : lane.Step callback asked [] taken left)
    (drained : lane.pump = .running → lane.channel.queue = []) :
    left.pump = .running → left.channel.queue = [] := by
  intro running
  have empty := drained (step.was_running running)
  cases step with
  | same | senderDropped => exact empty
  | looked shows =>
    rw [shows.of_idle.1]
    exact empty
  | taken shows | failed shows =>
    obtain ⟨-, rest, next, -⟩ := shows.of_took
    exact absurd (next.symm.trans empty) (by simp)
  | stopped shows =>
    rw [shows.of_ended.2]
    rfl

end Lane

namespace Tracker

variable {may : Action → Prop} {tracker next : Tracker} {action : Action} {event? : Option Event}
  {turns : List Polled} {id : PumpId} {lane : Lane}

/-- The pump is gone, and its receiver with it. -/
def HasEnded (tracker : Tracker) (id : PumpId) : Prop :=
  ∃ lane, tracker.lane? id = some lane ∧ lane.pump ≠ .running ∧ lane.channel.hasReceiver = false

theorem HasEnded.effect (ended : tracker.HasEnded id) (effect : Effect tracker action event? next) :
    next.HasEnded id := by
  obtain ⟨lane, here, gone, closed⟩ := ended
  obtain ⟨left, there, step⟩ := effect.step_lane here
  exact ⟨left, there, fun running => gone (step.was_running running), step.closed gone closed⟩

theorem HasEnded.offer (ended : tracker.HasEnded id) (how : Waiting) (sighting : Sighting) :
    tracker.offer id how sighting = (.closed, tracker) := by
  obtain ⟨lane, here, -, closed⟩ := ended
  exact offer_of_closed here closed how sighting

section

def tokens (tracker : Tracker) : List Nat :=
  tracker.generations.map Generation.token

@[simp] theorem tokens_setLane (id : PumpId) (lane : Lane) : (tracker.setLane id lane).tokens = tracker.tokens := by
  apply List.ext_getElem?
  intro index
  simp only [tokens, setLane, modifyGeneration, List.getElem?_map, List.getElem?_modify]
  cases tracker.generations[index]? with
  | none => rfl
  | some generation => by_cases same : id.generation = index <;> simp [same]

/-- Every token but the tracker's present one is cancelled. -/
def CancelsOld (tracker : Tracker) : Prop :=
  ∀ token ∈ tracker.tokens, token ≠ tracker.token → tracker.isCancelled token = true

theorem CancelsOld.effect (old : tracker.CancelsOld) (effect : Effect tracker action event? next) :
    next.CancelsOld := by
  cases effect with
  | nothing | joined | used => exact old
  | sent | looked | ended | intakeDropped =>
    intro token member
    rw [tokens_setLane] at member
    exact old token member
  | @took id _ left sighting now =>
    intro token member
    have same : (tracker.taking id left sighting now).tokens = tracker.tokens := tokens_setLane ..
    rw [same] at member
    exact old token member
  | cancelled =>
    intro token member different
    have before := old token member different
    rw [isCancelled, List.contains_iff_mem] at before ⊢
    exact List.mem_cons_of_mem _ before
  | started =>
    intro token member different
    simp only [tokens, addGeneration, List.map_append, List.mem_append, List.map_cons, List.map_nil, List.mem_singleton] at member
    rcases member with earlier | new
    · by_cases present : token = tracker.token
      next =>
        cases cancelled : tracker.isCancelled tracker.token with
        | true => rw [present]; exact cancelled
        | false => exact absurd present (by simpa [addGeneration, nextToken, cancelled] using different)
      next => exact old token earlier present
    · exact absurd new different

theorem isAsked_of_cancelled (old : tracker.CancelsOld) (cancelled : tracker.isCancelled tracker.token = true)
    (here : tracker.lane? id = some lane) : tracker.isAsked id = true := by
  obtain ⟨generation, found, -⟩ := lane?_eq_some_iff.mp here
  have member : generation.token ∈ tracker.tokens := List.mem_map_of_mem (List.mem_of_getElem? found)
  rw [isAsked, found]
  by_cases present : generation.token = tracker.token
  next => simpa [present] using cancelled
  next => exact old _ member present

theorem Effect.token_cancelled (effect : Effect tracker action event? next) (other : action ≠ .start)
    (cancelled : tracker.isCancelled tracker.token = true) : next.isCancelled next.token = true := by
  cases effect with
  | started => exact absurd rfl other
  | cancelled => simp [isCancelled, cancel]
  | _ => exact cancelled

end

/-- Nothing waits for a pump. -/
def IsDrained (tracker : Tracker) : Prop :=
  ∀ id lane, tracker.lane? id = some lane → lane.pump = .running → lane.channel.queue = []

theorem IsDrained.effect (drained : tracker.IsDrained) (effect : Effect tracker action event? next)
    (silent : ∀ id how sighting, action ≠ .send id how sighting) :
    receipts event?.toList = [] ∧ next.IsDrained := by
  constructor
  · cases effect with
    | took _ here shows =>
      obtain ⟨running, rest, waits, -⟩ := shows.of_took
      exact absurd (waits.symm.trans (drained _ _ here running)) (by simp)
    | _ => rfl
  · intro id left there
    have refused : accepted id event?.toList = [] := by
      cases effect with
      | sent how sighting => exact absurd rfl (silent _ how sighting)
      | _ => rfl
    cases here : tracker.lane? id with
    | none =>
      obtain ⟨-, -, empty, -⟩ := (effect.new_lane here).2.2 left there
      exact fun _ => empty
    | some lane =>
      obtain ⟨after, same, step⟩ := effect.step_lane here
      cases same.symm.trans there
      rw [refused] at step
      exact step.drained (drained id lane here)

theorem receipts_run (drained : tracker.IsDrained) {actions : List Action}
    (silent : ∀ id how sighting, .send id how sighting ∉ actions) : receipts (tracker.run actions).1 = [] := by
  induction actions generalizing tracker with
  | nil => rfl
  | cons action rest ih =>
    obtain ⟨nothing, still⟩ := drained.effect (tracker.effect_act action) (by
      intro id how sighting same
      exact silent id how sighting (by simp [same]))
    have later := ih still (fun id how sighting member => silent id how sighting (List.mem_cons_of_mem _ member))
    rw [run_cons, receipts_append, nothing, later]
    rfl

theorem Reaches.taken_eq_nil (reaches : tracker.Reaches may turns next) (drained : tracker.IsDrained)
    (silent : ∀ id how sighting, ¬ may (.send id how sighting)) : turns.filterMap Polled.taken? = [] := by
  obtain ⟨actions, allowed, -, took⟩ := reaches
  rw [← took, receipts_run drained fun id how sighting member => silent id how sighting (allowed _ member)]
  rfl

theorem Reaches.registry_eq (reaches : tracker.Reaches may turns next) (took : turns.filterMap Polled.taken? = [])
    (unused : ∀ operation, ¬ may (.use operation)) : next.registry = tracker.registry := by
  obtain ⟨actions, allowed, rfl, same⟩ := reaches
  have nothing : receipts (tracker.run actions).1 = [] := List.map_eq_nil_iff.mp (same.trans took)
  rw [registry_run tracker fun operation member => absurd (allowed _ member) (unused operation), nothing]
  rfl

theorem Reaches.token_cancelled (reaches : tracker.Reaches may turns next) (unstarted : ¬ may .start)
    (cancelled : tracker.isCancelled tracker.token = true) : next.isCancelled next.token = true := by
  apply reaches.invariant (P := fun tracker => tracker.isCancelled tracker.token = true) _ cancelled
  intro _ _ action _ allowed effect
  apply effect.token_cancelled
  intro starts
  rw [starts] at allowed
  exact unstarted allowed

end Tracker

end BeaconWatch
