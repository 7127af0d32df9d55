import BeaconWatch.Proofs.Tracker.Lanes
import BeaconWatch.Tracker.Actions

/-!
What an action does to a tracker, and to each of its lanes. It is said once, by `Tracker.Effect` and by
`Lane.Step`; the invariants of runs are read off these.
-/

set_option autoImplicit false

namespace BeaconWatch

/-- What one action can do to a lane: the sightings that it accepts and those that its pump takes, and the
lane that it leaves. -/
inductive Lane.Step (callback : Option Callback) (asked : Bool) (lane : Lane) :
    List Sighting → List Sighting → Lane → Prop
  | same : Step callback asked lane [] [] lane
  | sent (sighting : Sighting) (receiving : lane.channel.hasReceiver = true) :
      Step callback asked lane [sighting] [] (lane.withQueue (lane.channel.queue ++ [sighting]))
  | looked {left : Lane} (shows : lane.Shows asked .idle left) : Step callback asked lane [] [] left
  | taken {sighting : Sighting} {left : Lane} (shows : lane.Shows asked (.took sighting) left) :
      Step callback asked lane [] [sighting] left
  | failed {sighting : Sighting} {left : Lane} {call : Callback} {registry : Registry}
      (shows : lane.Shows asked (.took sighting) left) (chosen : callback = some call)
      (fails : call registry sighting = .fails) : Step callback asked lane [] [sighting] (left.finish .failed)
  | stopped {left : Lane} (shows : lane.Shows asked .ended left) : Step callback asked lane [] [] left
  | senderDropped : Step callback asked lane [] [] lane.dropSender

namespace Tracker

section

variable (first second : List Event) (id : PumpId)

@[simp] theorem accepted_append : accepted id (first ++ second) = accepted id first ++ accepted id second :=
  List.filterMap_append

@[simp] theorem recorded_append : recorded id (first ++ second) = recorded id first ++ recorded id second :=
  List.filterMap_append

@[simp] theorem receipts_append : receipts (first ++ second) = receipts first ++ receipts second :=
  List.filterMap_append

@[simp] theorem shown_append : shown (first ++ second) = shown first ++ shown second :=
  List.filterMap_append

end

/-- What an action can do to a tracker. -/
inductive Effect (tracker : Tracker) : Action → Option Event → Tracker → Prop
  | nothing (action : Action) : Effect tracker action none tracker
  | started {channel : Channel Sighting} (idle : tracker.isRunning = false) (empty : channel.queue = [])
      (receiving : channel.hasReceiver = true)
      (made : Channel.create Sighting tracker.config.channelCapacity.toNat 1 = .ok channel) :
      Effect tracker .start none (tracker.addGeneration channel)
  | sent {id : PumpId} {lane : Lane} (how : Waiting) (sighting : Sighting)
      (here : tracker.lane? id = some lane) (receiving : lane.channel.hasReceiver = true) :
      Effect tracker (.send id how sighting) (some (.accepted id sighting))
        (tracker.setLane id (lane.withQueue (lane.channel.queue ++ [sighting])))
  | looked {id : PumpId} {lane left : Lane} (now : Timestamp) (here : tracker.lane? id = some lane)
      (shows : lane.Shows (tracker.isAsked id) .idle left) :
      Effect tracker (.look id now) none (tracker.setLane id left)
  | took {id : PumpId} {lane left : Lane} {sighting : Sighting} (now : Timestamp)
      (here : tracker.lane? id = some lane) (shows : lane.Shows (tracker.isAsked id) (.took sighting) left) :
      Effect tracker (.look id now) (some (.recorded id sighting now (tracker.reaction sighting now)))
        (tracker.taking id left sighting now)
  | ended {id : PumpId} {lane left : Lane} (now : Timestamp) (here : tracker.lane? id = some lane)
      (shows : lane.Shows (tracker.isAsked id) .ended left) :
      Effect tracker (.look id now) none (tracker.setLane id left)
  | cancelled : Effect tracker .cancel none tracker.cancel
  | joined {result : Except Error Unit} (cause : String)
      (awaited : tracker.awaitTasks cause tracker.tasks = some result) :
      Effect tracker (.join cause) (some (.returned result)) { tracker with tasks := [] }
  | intakeDropped {id : PumpId} {lane : Lane} (here : tracker.lane? id = some lane) :
      Effect tracker (.dropIntake id) none (tracker.setLane id lane.dropSender)
  | used (operation : Registry.Operation) :
      Effect tracker (.use operation) none { tracker with registry := tracker.registry.after operation }

theorem start_cases (tracker : Tracker) :
    (∃ channel : Channel Sighting, tracker.start = .ok (.ok (tracker.addGeneration channel)) ∧
      tracker.isRunning = false ∧ channel.queue = [] ∧ channel.hasReceiver = true ∧
      Channel.create Sighting tracker.config.channelCapacity.toNat 1 = .ok channel) ∨
    (∃ error, tracker.start = .ok (.error error)) ∨ ∃ abort, tracker.start = .error abort := by
  rw [start, Channel.create]
  split
  case isTrue => exact .inr (.inl ⟨_, rfl⟩)
  case isFalse idle =>
    split
    case isTrue => exact .inl ⟨_, rfl, by simpa using idle, rfl, rfl, rfl⟩
    case isFalse => exact .inr (.inr ⟨_, rfl⟩)

theorem effect_act (tracker : Tracker) (action : Action) :
    Effect tracker action (tracker.act action).1 (tracker.act action).2 := by
  cases action with
  | start =>
    rcases tracker.start_cases with ⟨channel, started, idle, empty, receiving, made⟩ | ⟨error, refused⟩ | ⟨abort, aborted⟩
    · simp only [act, started]
      exact .started idle empty receiving made
    · simp only [act, refused]
      exact .nothing _
    · simp only [act, aborted]
      exact .nothing _
  | send id how sighting =>
    cases here : tracker.lane? id with
    | none =>
      simp only [act, offer, here]
      exact .nothing _
    | some lane =>
      rcases offer_cases here how sighting with ⟨receiving, sent⟩ | ⟨result, refused, same⟩
      · simp only [act, sent]
        exact .sent how sighting here receiving
      · cases result with
        | sent => exact absurd rfl refused
        | waits _ =>
          simp only [act, same]
          exact .nothing _
        | closed =>
          simp only [act, same]
          exact .nothing _
  | look id now =>
    cases here : tracker.lane? id with
    | none =>
      simp only [act, look_of_none here]
      exact .nothing _
    | some lane =>
      rcases look_cases here now with ⟨left, shows, looked⟩ | ⟨left, shows, looked⟩ | ⟨sighting, left, shows, looked⟩
      · simp only [act, looked]
        exact .looked now here shows
      · simp only [act, looked]
        exact .ended now here shows
      · simp only [act, looked]
        exact .took now here shows
  | cancel => exact .cancelled
  | join cause =>
    cases awaited : tracker.awaitTasks cause tracker.tasks with
    | none =>
      simp only [act, join, awaited]
      exact .nothing _
    | some result =>
      simp only [act, join, awaited]
      exact .joined cause awaited
  | dropIntake id =>
    cases here : tracker.lane? id with
    | none =>
      simp only [act, here]
      exact .nothing _
    | some lane =>
      simp only [act, here]
      exact .intakeDropped here
  | use operation => exact .used operation

theorem effect_of_start {tracker started : Tracker} (starts : tracker.start = .ok (.ok started)) :
    Effect tracker .start none started := by
  have effect := tracker.effect_act .start
  simpa only [act, starts] using effect

/-- What each of the actions keeps holds at the end. -/
theorem run_invariant {P : Tracker → Prop} {tracker : Tracker} {actions : List Action}
    (kept : ∀ {tracker next : Tracker} {action : Action} {event? : Option Event},
      action ∈ actions → Effect tracker action event? next → P tracker → P next)
    (first : P tracker) : P (tracker.run actions).2 := by
  induction actions generalizing tracker with
  | nil => exact first
  | cons action rest ih =>
    have second := kept List.mem_cons_self (tracker.effect_act action) first
    exact ih (fun member => kept (List.mem_cons_of_mem _ member)) second

section

variable {tracker next : Tracker} {action : Action} {event? : Option Event}

theorem Effect.callback_eq (effect : Effect tracker action event? next) : next.callback = tracker.callback := by
  cases effect <;> rfl

theorem lane?_addGeneration {channel : Channel Sighting} (id : PumpId) :
    (tracker.addGeneration channel).lane? id =
      if id.generation = tracker.generations.length then some { channel := channel } else tracker.lane? id := by
  simp only [lane?, addGeneration, List.getElem?_append]
  by_cases new : id.generation = tracker.generations.length
  next => cases path : id.path <;> simp [new, Generation.lane]
  next =>
    by_cases old : id.generation < tracker.generations.length
    next => simp [new, old]
    next =>
      have outside : id.generation - tracker.generations.length ≠ 0 := by omega
      simp [new, old, outside]

theorem ne_length_of_lane? {id : PumpId} {lane : Lane} (here : tracker.lane? id = some lane) :
    id.generation ≠ tracker.generations.length := by
  obtain ⟨generation, found, -⟩ := lane?_eq_some_iff.mp here
  have inside := (List.getElem?_eq_some_iff.mp found).1
  omega

theorem Effect.isAsked_eq {id : PumpId} {lane : Lane} (effect : Effect tracker action event? next)
    (uncancelled : action ≠ .cancel) (here : tracker.lane? id = some lane) : next.isAsked id = tracker.isAsked id := by
  cases effect with
  | nothing | joined | used => rfl
  | cancelled => exact absurd rfl uncancelled
  | started =>
    obtain ⟨generation, found, -⟩ := lane?_eq_some_iff.mp here
    have inside := (List.getElem?_eq_some_iff.mp found).1
    simp [isAsked, addGeneration, List.getElem?_append_left inside, isCancelled]
  | sent | looked | ended | intakeDropped => exact isAsked_setLane ..
  | took => exact isAsked_setLane ..

/-- A pump that is asked to stop is not asked to go on later. -/
theorem Effect.asked_lasts {id : PumpId} {lane : Lane} (effect : Effect tracker action event? next)
    (here : tracker.lane? id = some lane) (asked : tracker.isAsked id = true) : next.isAsked id = true := by
  by_cases cancel : action = .cancel
  next =>
    subst cancel
    cases effect with
    | nothing => exact asked
    | cancelled =>
      obtain ⟨generation, found, -⟩ := lane?_eq_some_iff.mp here
      rw [Tracker.isAsked_eq found, isCancelled, List.contains_iff_mem] at asked
      have same : tracker.cancel.generations[id.generation]? = some generation := found
      rw [Tracker.isAsked_eq same, isCancelled, List.contains_iff_mem]
      exact List.mem_cons_of_mem _ asked
  next => rw [effect.isAsked_eq cancel here, asked]

section

variable {id : PumpId} {lane left : Lane} {taken given : List Sighting} {event : Event}

-- The action is about one lane, and the question is about any.
theorem step_of_setLane {other : PumpId} (there : tracker.lane? other = some left)
    {changed : Lane} (generations : next.generations = (tracker.setLane other changed).generations)
    (mine : left.Step tracker.callback (tracker.isAsked other) (accepted other event?.toList)
      (recorded other event?.toList) changed)
    (theirs : id ≠ other → accepted id event?.toList = [] ∧ recorded id event?.toList = [])
    (here : tracker.lane? id = some lane) :
    ∃ left, next.lane? id = some left ∧
      lane.Step tracker.callback (tracker.isAsked id) (accepted id event?.toList) (recorded id event?.toList) left := by
  have moved : next.lane? id = (tracker.setLane other changed).lane? id := by rw [lane?, generations, lane?]
  rw [moved]
  by_cases same : id = other
  next =>
    subst same
    cases there.symm.trans here
    exact ⟨changed, lane?_setLane_self here changed, mine⟩
  next =>
    obtain ⟨none, nothing⟩ := theirs same
    rw [lane?_setLane_of_ne same, none, nothing]
    exact ⟨lane, here, .same⟩

/-- An action leaves each lane as it was, but for the one that it is about. -/
theorem Effect.step_lane (effect : Effect tracker action event? next) (here : tracker.lane? id = some lane) :
    ∃ left, next.lane? id = some left ∧
      lane.Step tracker.callback (tracker.isAsked id) (accepted id event?.toList) (recorded id event?.toList) left := by
  cases effect with
  | nothing => exact ⟨lane, here, .same⟩
  | started =>
    refine ⟨lane, ?_, .same⟩
    rw [lane?_addGeneration, if_neg (ne_length_of_lane? here), here]
  | @sent other _ how sighting there receiving =>
    apply step_of_setLane there rfl _ _ here
    · simpa [accepted, recorded] using .sent sighting receiving
    · intro different
      simp [accepted, recorded, Ne.symm different]
  | looked now there shows =>
    exact step_of_setLane there rfl (.looked shows) (fun _ => ⟨rfl, rfl⟩) here
  | took now there shows =>
    apply step_of_setLane there rfl _ _ here
    · split
      case isTrue fails =>
        obtain ⟨call, chosen, fails⟩ := Option.map_eq_some_iff.mp fails
        simpa [accepted, recorded] using .failed shows chosen fails
      case isFalse => simpa [accepted, recorded] using .taken shows
    · intro different
      simp [accepted, recorded, Ne.symm different]
  | ended now there shows =>
    exact step_of_setLane there rfl (.stopped shows) (fun _ => ⟨rfl, rfl⟩) here
  | cancelled => exact ⟨lane, here, .same⟩
  | joined => exact ⟨lane, here, .same⟩
  | intakeDropped there => exact step_of_setLane there rfl .senderDropped (fun _ => ⟨rfl, rfl⟩) here
  | used => exact ⟨lane, here, .same⟩

-- Nothing is accepted or taken on a lane that is not there, and one that comes is new.
theorem Effect.new_lane (effect : Effect tracker action event? next) (absent : tracker.lane? id = none) :
    accepted id event?.toList = [] ∧ recorded id event?.toList = [] ∧
      ∀ lane, next.lane? id = some lane → id ∈ next.tasks ∧
        lane.pump = .running ∧ lane.channel.queue = [] ∧ lane.channel.hasReceiver = true ∧
        Channel.create Sighting tracker.config.channelCapacity.toNat 1 = .ok lane.channel := by
  have elsewhere {other : PumpId} {lane : Lane} (there : tracker.lane? other = some lane) : id ≠ other := by
    intro same
    rw [same, there] at absent
    cases absent
  have still {later : Tracker} (same : later.lane? id = tracker.lane? id) :
      ∀ lane, later.lane? id = some lane → id ∈ later.tasks ∧
        lane.pump = .running ∧ lane.channel.queue = [] ∧ lane.channel.hasReceiver = true ∧
        Channel.create Sighting tracker.config.channelCapacity.toNat 1 = .ok lane.channel := by
    intro lane here
    rw [same, absent] at here
    cases here
  cases effect with
  | nothing => exact ⟨rfl, rfl, still rfl⟩
  | started idle empty receiving made =>
    refine ⟨rfl, rfl, ?_⟩
    intro lane here
    rw [lane?_addGeneration] at here
    split at here
    case isTrue new =>
      cases here
      refine ⟨?_, rfl, empty, receiving, made⟩
      obtain ⟨generation, path⟩ := id
      cases new
      cases path <;> simp [addGeneration]
    case isFalse => exact absurd (absent.symm.trans here) (by simp)
  | sent how sighting there =>
    have different := elsewhere there
    exact ⟨by simp [accepted, Ne.symm different], rfl, still (lane?_setLane_of_ne different _)⟩
  | took now there =>
    have different := elsewhere there
    exact ⟨rfl, by simp [recorded, Ne.symm different], still (lane?_setLane_of_ne different _)⟩
  | looked now there | ended now there => exact ⟨rfl, rfl, still (lane?_setLane_of_ne (elsewhere there) _)⟩
  | cancelled => exact ⟨rfl, rfl, still rfl⟩
  | joined => exact ⟨rfl, rfl, still rfl⟩
  | intakeDropped there => exact ⟨rfl, rfl, still (lane?_setLane_of_ne (elsewhere there) _)⟩
  | used => exact ⟨rfl, rfl, still rfl⟩

end

end

end Tracker

end BeaconWatch
