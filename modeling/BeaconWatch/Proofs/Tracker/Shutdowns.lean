import BeaconWatch.Proofs.Tracker.Bookkeeping

/-!
Shutdowns. One that returns says whether the callback failed in a pump of the generation at work, and it
returns once each of these pumps had two looks more than it had sightings to take.
-/

set_option autoImplicit false

namespace BeaconWatch.Tracker

variable {tracker next : Tracker} {action : Action} {event? : Option Event} {id : PumpId} {lane left : Lane}
  {events : List Event} {actions : List Action} {tasks : List PumpId} {result : Except Error Unit} {cause : String}

theorem awaitTasks_cases (awaited : tracker.awaitTasks cause tasks = some result) :
    (result = .ok () ∧ ∀ id ∈ tasks, ∀ lane, tracker.lane? id = some lane → lane.pump = .stopped) ∨
    (result = .error (.intakeTaskFailed cause) ∧
      ∃ id ∈ tasks, ∃ lane, tracker.lane? id = some lane ∧ lane.pump = .failed) := by
  induction tasks with
  | nil =>
    cases awaited
    exact .inl ⟨rfl, by simp⟩
  | cons first rest ih =>
    rw [awaitTasks] at awaited
    split at awaited
    case h_1 => cases awaited
    case h_2 failed =>
      cases awaited
      obtain ⟨lane, here, failed⟩ := Option.map_eq_some_iff.mp failed
      exact .inr ⟨rfl, first, List.mem_cons_self, lane, here, failed⟩
    case h_3 stopped =>
      obtain ⟨lane, here, gone⟩ := Option.map_eq_some_iff.mp stopped
      rcases ih awaited with ⟨ok, others⟩ | ⟨error, id, member, failed⟩
      · refine .inl ⟨ok, ?_⟩
        intro id member other there
        rcases List.mem_cons.mp member with rfl | later
        · cases here.symm.trans there
          exact gone
        · exact others id later other there
      · exact .inr ⟨error, id, List.mem_cons_of_mem _ member, failed⟩
    case h_4 absent =>
      rcases ih awaited with ⟨ok, others⟩ | ⟨error, id, member, failed⟩
      · refine .inl ⟨ok, ?_⟩
        intro id member other there
        rcases List.mem_cons.mp member with rfl | later
        · simp [there] at absent
        · exact others id later other there
      · exact .inr ⟨error, id, List.mem_cons_of_mem _ member, failed⟩

theorem isSome_awaitTasks (ended : ∀ id ∈ tasks, ∀ lane, tracker.lane? id = some lane → lane.pump ≠ .running) :
    (tracker.awaitTasks cause tasks).isSome = true := by
  induction tasks with
  | nil => rfl
  | cons first rest ih =>
    have others := ih fun id member => ended id (List.mem_cons_of_mem _ member)
    rw [awaitTasks]
    split
    case h_1 running =>
      obtain ⟨lane, here, running⟩ := Option.map_eq_some_iff.mp running
      exact absurd running (ended first List.mem_cons_self lane here)
    case h_2 => rfl
    case h_3 => exact others
    case h_4 => exact others

/-- What the return of a shutdown says, and what it leaves. -/
theorem join_eq_some (inStep : tracker.InStep) (remembers : tracker.Remembers events)
    (joined : tracker.join cause = some (result, next)) :
    next = { tracker with tasks := [] } ∧
      ((result = .ok () ∧ ∀ id, tracker.current? = some id.generation → failedIn id events = false) ∨
        (result = .error (.intakeTaskFailed cause) ∧
          ∃ id, tracker.current? = some id.generation ∧ failedIn id events = true)) := by
  obtain ⟨said, awaited, same⟩ := Option.map_eq_some_iff.mp joined
  cases same
  refine ⟨rfl, ?_⟩
  rcases awaitTasks_cases awaited with ⟨ok, stopped⟩ | ⟨error, id, member, failed⟩
  · refine .inl ⟨ok, ?_⟩
    intro id current
    rw [← Bool.not_eq_true, remembers id]
    intro failing
    obtain ⟨lane, here, failed⟩ := failing
    have stopped := stopped id (inStep.tasks.mpr current) lane here
    exact absurd (failed.symm.trans stopped) (by decide)
  · exact .inr ⟨error, id, inStep.tasks.mp member, (remembers id).mpr failed⟩

section

variable (aside : ∀ action ∈ actions, action.isOwners = false)

include aside

theorem tasks_run :
    (tracker.run actions).2.tasks = tracker.tasks ∧ (tracker.run actions).2.current? = tracker.current? := by
  apply run_invariant (P := fun after => after.tasks = tracker.tasks ∧ after.current? = tracker.current?) _ ⟨rfl, rfl⟩
  intro _ _ action _ member effect same
  have other := aside action member
  have plain := effect.tasks_eq (by rintro rfl; cases other) (by rintro _ rfl; cases other)
  exact ⟨plain.1.trans same.1, plain.2.trans same.2⟩

end

theorem was_running_run (here : tracker.lane? id = some lane) (there : (tracker.run actions).2.lane? id = some left)
    (running : left.pump = .running) : lane.pump = .running := by
  -- A pump that has ended does not run again.
  by_contra ended
  have kept : ∃ left, (tracker.run actions).2.lane? id = some left ∧ left.pump ≠ .running := by
    apply run_invariant (P := fun after => ∃ left, after.lane? id = some left ∧ left.pump ≠ .running) _
      ⟨lane, here, ended⟩
    intro _ _ _ _ _ effect before
    obtain ⟨lane, here, ended⟩ := before
    obtain ⟨left, there, step⟩ := effect.step_lane here
    exact ⟨left, there, fun running => ended (step.was_running running)⟩
  obtain ⟨same, found, ended⟩ := kept
  cases found.symm.trans there
  exact ended running

theorem HasEnded.run (ended : tracker.HasEnded id) (actions : List Action) : (tracker.run actions).2.HasEnded id :=
  run_invariant (P := fun after => after.HasEnded id) (fun _ effect kept => kept.effect effect) ended

-- The lane that a send leaves, and what it tells, depend on the lane that it finds.
theorem act_send (here : tracker.lane? id = some lane) (how : Waiting) (sighting : Sighting) :
    (tracker.act (.send id how sighting)).1 =
        (if (lane.channel.send how sighting).1 = .sent then some (.accepted id sighting) else none) ∧
      (tracker.act (.send id how sighting)).2.lane? id =
        some { lane with channel := (lane.channel.send how sighting).2 } := by
  rcases lane.channel.send_cases how sighting with ⟨-, -, sent⟩ | ⟨result, refused, same⟩
  · simp [act, offer, here, sent, lane?_setLane_self here]
  · cases result with
    | sent => exact absurd rfl refused
    | waits | closed => simp [act, offer, here, same, setLane_self here]

/-- A look of a pump that is asked to stop, and does not, takes a sighting or sees the channel empty. It sees that
only once: after that it would stop. -/
theorem act_look_of_isAsked (asked : tracker.isAsked id = true) (here : tracker.lane? id = some lane) {now : Timestamp}
    (there : (tracker.act (.look id now)).2.lane? id = some left) (running : left.pump = .running) :
    1 + lane.sawEmpty.toNat =
      (recorded id (tracker.act (.look id now)).1.toList).length + left.sawEmpty.toNat := by
  rcases look_cases here now with ⟨_, shows, looked⟩ | ⟨_, shows, looked⟩ | ⟨sighting, _, shows, looked⟩
  · simp only [act, looked, lane?_setLane_self here] at there ⊢
    cases there
    cases shows with
    | gone ended => exact absurd running ended
    | empty _ first => simp [first, recorded]
    | unasked _ _ calm => exact absurd (asked.symm.trans calm) (by decide)
  · simp only [act, looked, lane?_setLane_self here] at there
    cases there
    rw [shows.of_ended.2] at running
    cases running
  · simp only [act, looked, lane?_taking here] at there ⊢
    cases shows with
    | took _ first =>
      cases there
      split at running
      case isTrue => cases running
      case isFalse calm => simp [calm, first, recorded, Lane.withQueue]

theorem looked_act (asked : tracker.isAsked id = true) (here : tracker.lane? id = some lane)
    (there : (tracker.act action).2.lane? id = some left) (running : left.pump = .running) :
    (if action.isLookOf id then 1 else 0) + lane.sawEmpty.toNat =
      (recorded id (tracker.act action).1.toList).length + left.sawEmpty.toNat := by
  by_cases mine : action.lane? = some id
  next =>
    cases action with
    | start | cancel | join | use => cases mine
    | send _ how sighting =>
      cases mine
      obtain ⟨said, leaves⟩ := act_send here how sighting
      cases leaves.symm.trans there
      rw [said]
      by_cases sent : (lane.channel.send how sighting).1 = .sent <;> simp [sent, recorded, Action.isLookOf]
    | dropIntake =>
      cases mine
      simp only [act, here, lane?_setLane_self here] at there ⊢
      cases there
      rfl
    | look =>
      cases mine
      rw [if_pos (by simp [Action.isLookOf])]
      exact act_look_of_isAsked asked here there running
  next =>
    obtain ⟨still, silent⟩ := (tracker.effect_act action).elsewhere here mine
    cases still.symm.trans there
    have unlooked : action.isLookOf id = false := by
      cases action with
      | look other => simpa [Action.isLookOf, Action.lane?] using mine
      | _ => rfl
    rw [← recorded_about, silent, unlooked]
    simp [recorded]

/-- While a pump that is asked to stop goes on, each of its looks takes a sighting, but for one. -/
theorem looksOf_eq (old : tracker.CancelsOld) (cancelled : tracker.isCancelled tracker.token = true)
    (aside : ∀ action ∈ actions, action.isOwners = false) (here : tracker.lane? id = some lane)
    (there : (tracker.run actions).2.lane? id = some left) (running : left.pump = .running) :
    looksOf id actions + lane.sawEmpty.toNat =
      (recorded id (tracker.run actions).1).length + left.sawEmpty.toNat := by
  induction actions generalizing tracker lane with
  | nil =>
    cases here.symm.trans there
    rfl
  | cons action rest ih =>
    have effect := tracker.effect_act action
    have plain := aside action List.mem_cons_self
    have later : ∀ action ∈ rest, action.isOwners = false :=
      fun action member => aside action (List.mem_cons_of_mem _ member)
    obtain ⟨middle, found, -⟩ := effect.step_lane here
    have cancels := effect.token_cancelled (by rintro rfl; cases plain) cancelled
    have others := ih (old.effect effect) cancels later found there
    have asked := isAsked_of_cancelled old cancelled here
    have first := looked_act asked here found (was_running_run found there running)
    simp only [looksOf, List.countP_cons] at others ⊢
    simp only [run_cons, recorded_append, List.length_append]
    omega

/-- A pump that is asked to stop ends within as many looks as it has sightings to take, and two. -/
theorem ended_of_looks (accounts : tracker.Accounts events) (old : tracker.CancelsOld)
    (cancelled : tracker.isCancelled tracker.token = true) (aside : ∀ action ∈ actions, action.isOwners = false)
    (here : tracker.lane? id = some lane)
    (enough : (tracker.waiting id).length + (accepted id (tracker.run actions).1).length + 1 < looksOf id actions)
    (there : (tracker.run actions).2.lane? id = some left) : left.pump ≠ .running := by
  intro running
  have before := (accounts.lanes here).waiting (was_running_run here there running)
  have after := ((accounts.run actions).lanes there).waiting running
  have looks := looksOf_eq old cancelled aside here there running
  have waiting : tracker.waiting id = lane.channel.queue := by rw [waiting, here, Option.elim_some]
  have count := congrArg List.length after
  simp only [accepted_append, recorded_append, before, List.length_append] at count
  rw [waiting] at enough
  have once := left.sawEmpty.toNat_le
  omega

end BeaconWatch.Tracker
