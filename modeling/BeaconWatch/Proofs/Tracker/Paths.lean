import BeaconWatch.Proofs.Tracker.Bookkeeping

/-!
Paths that work. A start opens two of them, and each stays open until its generation is cancelled, its callback
fails or its intake is dropped.
-/

set_option autoImplicit false

namespace BeaconWatch

theorem Lane.Step.stays_open {callback : Option Callback} {asked : Bool} {lane left : Lane} {given taken : List Sighting}
    (step : lane.Step callback asked given taken left) (running : lane.pump = .running)
    (receiving : lane.channel.hasReceiver = true) (held : lane.channel.senders ≠ 0) (unasked : asked = false)
    (healthy : left.pump ≠ .failed) : left.pump = .running ∧ left.channel.hasReceiver = true := by
  cases step with
  | same | sent | senderDropped => exact ⟨running, receiving⟩
  | looked shows =>
    obtain ⟨channel, pump⟩ := shows.of_idle
    rw [channel, pump]
    exact ⟨running, receiving⟩
  | taken shows =>
    obtain ⟨-, rest, -, rfl⟩ := shows.of_took
    exact ⟨running, receiving⟩
  | failed => exact absurd rfl healthy
  | stopped shows =>
    cases shows with
    | asked _ _ asks => exact absurd (asks.symm.trans unasked) (by decide)
    | closed _ _ _ dropped => exact absurd dropped held

namespace Tracker

variable {tracker next started : Tracker} {action : Action} {event? : Option Event} {id : PumpId} {lane left : Lane}
  {actions : List Action}

/-- A sighting is accepted while there is room for it, and the pump records the one that waits longest. -/
structure Works (tracker : Tracker) (id : PumpId) : Prop where
  accepts : ∀ how sighting, (tracker.offer id how sighting).1 =
    if (tracker.waiting id).length < tracker.config.channelCapacity.toNat then .sent else .waits how
  keeps : ∀ how sighting, (tracker.offer id how sighting).1 = .sent →
    (tracker.offer id how sighting).2.waiting id = tracker.waiting id ++ [sighting]
  records : ∀ now sighting rest, tracker.waiting id = sighting :: rest →
    (tracker.poll id now).1 = .took sighting (tracker.reaction sighting now) ∧
      (tracker.poll id now).2.registry = tracker.registry.recordAt sighting now ∧
      (tracker.poll id now).2.registry.get? sighting.key = some (.ofSighting sighting now) ∧
      (tracker.reaction sighting now ≠ some .fails → (tracker.poll id now).2.waiting id = rest)
  goesOn : ∀ now, tracker.waiting id = [] → tracker.poll id now = (.idle, tracker)

theorem waiting_eq (here : tracker.lane? id = some lane) : tracker.waiting id = lane.channel.queue := by
  simp only [waiting, here, Option.elim_some]

/-- The pump runs, its intake is held, and nobody has asked it to stop. -/
structure IsOpen (tracker : Tracker) (id : PumpId) (lane : Lane) : Prop where
  here : tracker.lane? id = some lane
  running : lane.pump = .running
  receiving : lane.channel.hasReceiver = true
  held : lane.channel.senders ≠ 0
  unasked : tracker.isAsked id = false

theorem IsOpen.works (isOpen : tracker.IsOpen id lane)
    (capacity : lane.channel.capacity = tracker.config.channelCapacity.toNat) : tracker.Works id := by
  have waits := waiting_eq isOpen.here
  constructor
  · intro how sighting
    simp only [offer, isOpen.here, Channel.send, isOpen.receiving, Channel.hasRoom, waits, capacity]
    by_cases room : lane.channel.queue.length < tracker.config.channelCapacity.toNat <;> simp [room]
  · intro how sighting sent
    rcases offer_cases isOpen.here how sighting with ⟨-, offered⟩ | ⟨result, refused, offered⟩
    · rw [offered, waits]
      exact waiting_eq (lane?_setLane_self isOpen.here _)
    · rw [offered] at sent
      exact absurd sent refused
  · intro now sighting rest next
    rw [waits] at next
    have unasked (asked : tracker.isAsked id = true) : lane.sawEmpty = false :=
      absurd (asked.symm.trans isOpen.unasked) (by decide)
    rw [poll_of_queue isOpen.here isOpen.running next unasked]
    refine ⟨rfl, rfl, tracker.registry.get?_upsert_self (.ofSighting sighting now), ?_⟩
    intro calm
    rw [waiting_eq (lane?_taking isOpen.here (lane.withRest rest) sighting now), if_neg calm]
    rfl
  · intro now empty
    rw [waits] at empty
    rcases poll_cases isOpen.here now with ⟨polled, -⟩ | ⟨-, -, why⟩ | ⟨first, others, -, -, next⟩
    · exact polled
    · rcases why with ⟨asked, -⟩ | ⟨-, dropped⟩
      · exact absurd (asked.symm.trans isOpen.unasked) (by decide)
      · exact absurd dropped isOpen.held
    · exact absurd (next.symm.trans empty) (by simp)

theorem isCancelled_nextToken (inStep : tracker.InStep) : tracker.isCancelled tracker.nextToken = false := by
  rw [nextToken]
  split
  case isTrue =>
    rw [isCancelled, List.contains_eq_mem, decide_eq_false_iff_not]
    intro member
    have bound := inStep.reached _ member
    omega
  case isFalse fresh => simpa using fresh

theorem isAsked_addGeneration {channel : Channel Sighting} (new : id.generation = tracker.generations.length) :
    (tracker.addGeneration channel).isAsked id = tracker.isCancelled tracker.nextToken := by
  simp [isAsked, addGeneration, new, isCancelled]

theorem Effect.senders_eq (effect : Effect tracker action event? next) (kept : action ≠ .dropIntake id)
    (here : tracker.lane? id = some lane) (there : next.lane? id = some left) :
    left.channel.senders = lane.channel.senders := by
  by_cases mine : action.lane? = some id
  next =>
    cases effect with
    | nothing =>
      cases here.symm.trans there
      rfl
    | cancelled | joined | used | started => cases mine
    | sent _ _ found =>
      cases mine
      cases here.symm.trans found
      cases (lane?_setLane_self here _).symm.trans there
      rfl
    | looked _ found shows | ended _ found shows =>
      cases mine
      cases here.symm.trans found
      cases (lane?_setLane_self here _).symm.trans there
      exact shows.senders_eq
    | took _ found shows =>
      cases mine
      cases here.symm.trans found
      cases (lane?_taking here _ _ _).symm.trans there
      split <;> exact shows.senders_eq
    | intakeDropped =>
      cases mine
      exact absurd rfl kept
  next =>
    cases (effect.elsewhere here mine).1.symm.trans there
    rfl

theorem IsOpen.effect (isOpen : tracker.IsOpen id lane) (effect : Effect tracker action event? next)
    (uncancelled : action ≠ .cancel) (kept : action ≠ .dropIntake id) (calm : failedIn id event?.toList = false) :
    ∃ left, next.IsOpen id left := by
  obtain ⟨left, there, step⟩ := effect.step_lane isOpen.here
  have healthy : left.pump ≠ .failed := by
    intro failed
    rcases (effect.failed_iff isOpen.here there).mp failed with before | fails
    · exact absurd (before.symm.trans isOpen.running) (by decide)
    · exact absurd (fails.symm.trans calm) (by decide)
  obtain ⟨running, receiving⟩ :=
    step.stays_open isOpen.running isOpen.receiving isOpen.held isOpen.unasked healthy
  have senders := effect.senders_eq kept isOpen.here there
  have asked := effect.isAsked_eq uncancelled isOpen.here
  exact ⟨left, there, running, receiving, fun none => isOpen.held (senders.symm.trans none),
    asked.trans isOpen.unasked⟩

theorem IsOpen.run (isOpen : tracker.IsOpen id lane) (uncancelled : .cancel ∉ actions)
    (kept : .dropIntake id ∉ actions) (calm : failedIn id (tracker.run actions).1 = false) :
    ∃ left, (tracker.run actions).2.IsOpen id left := by
  induction actions generalizing tracker lane with
  | nil => exact ⟨lane, isOpen⟩
  | cons action rest ih =>
    rw [run_cons, failedIn_append, Bool.or_eq_false_iff] at calm
    rw [List.mem_cons, not_or] at uncancelled kept
    obtain ⟨left, still⟩ := isOpen.effect (tracker.effect_act action) (Ne.symm uncancelled.1) (Ne.symm kept.1) calm.1
    exact ih still uncancelled.2 kept.2 calm.2

/-- A start opens both paths of a new generation. -/
theorem isOpen_of_start (inStep : tracker.InStep) (starts : tracker.start = .ok (.ok started)) (path : IntakePath) :
    ∃ lane, started.IsOpen ⟨tracker.generations.length, path⟩ lane := by
  rcases tracker.start_cases with ⟨channel, same, -, -, -, made⟩ | ⟨error, refused⟩ | ⟨abort, aborted⟩
  · cases same.symm.trans starts
    rw [(Channel.create_eq_ok_iff.mp made).2]
    refine ⟨_, by rw [lane?_addGeneration, if_pos rfl], rfl, rfl, by simp, ?_⟩
    rw [isAsked_addGeneration rfl, isCancelled_nextToken inStep]
  · cases refused.symm.trans starts
  · cases aborted.symm.trans starts

/-- A start succeeds, and both of its paths work until they are cancelled, dropped or left by their pump. -/
def OpensPaths (tracker : Tracker) : Prop :=
  ∃ started, tracker.start = .ok (.ok started) ∧ ∀ path actions,
    let id : PumpId := ⟨tracker.generations.length, path⟩
    .cancel ∉ actions → .dropIntake id ∉ actions → failedIn id (started.run actions).1 = false →
      (started.run actions).2.Works id

theorem start_of_not_isRunning (idle : tracker.isRunning = false)
    (usable : Channel.IsUsable tracker.config.channelCapacity.toNat) : ∃ started, tracker.start = .ok (.ok started) := by
  simp [start, idle, Channel.create_eq_ok_iff.mpr ⟨usable, rfl⟩, Except.map]

theorem InStep.opensPaths (inStep : tracker.InStep) (idle : tracker.isRunning = false)
    (usable : Channel.IsUsable tracker.config.channelCapacity.toNat) : tracker.OpensPaths := by
  obtain ⟨started, starts⟩ := start_of_not_isRunning idle usable
  refine ⟨started, starts, ?_⟩
  intro path actions id uncancelled kept calm
  obtain ⟨lane, isOpen⟩ := isOpen_of_start inStep starts path
  obtain ⟨left, still⟩ := isOpen.run uncancelled kept calm
  have settled := (inStep.effect (effect_of_start starts)).run actions
  exact still.works (settled.capacity still.here)

end Tracker

end BeaconWatch
