import BeaconWatch.Proofs.Tracker.Accounts
import BeaconWatch.Proofs.Tracker.Settling

/-!
What the commands of a session do to its tracker. Each of them is a run of actions, so what holds of all such
runs holds of sessions.
-/

set_option autoImplicit false

namespace BeaconWatch

def Polled.taken? : Polled → Option Sighting
  | .took sighting _ => some sighting
  | .idle | .ended => none

namespace Tracker

/-- The tracker gets to another one by actions of the given kind, of which these are the turns of its pumps. -/
def Reaches (may : Action → Prop) (tracker : Tracker) (turns : List Polled) (next : Tracker) : Prop :=
  ∃ actions, (∀ action ∈ actions, may action) ∧ (tracker.run actions).2 = next ∧
    (receipts (tracker.run actions).1).map Prod.fst = turns.filterMap Polled.taken?

namespace Reaches

variable {may : Action → Prop} {tracker middle next : Tracker} {turns later : List Polled}

theorem none (tracker : Tracker) : tracker.Reaches may [] tracker :=
  ⟨[], by simp, rfl, rfl⟩

theorem append (first : tracker.Reaches may turns middle) (second : middle.Reaches may later next) :
    tracker.Reaches may (turns ++ later) next := by
  obtain ⟨before, beforeMay, rfl, beforeTook⟩ := first
  obtain ⟨after, afterMay, rfl, afterTook⟩ := second
  refine ⟨before ++ after, ?_, ?_, ?_⟩
  · intro action member
    rcases List.mem_append.mp member with early | late
    · exact beforeMay action early
    · exact afterMay action late
  · rw [run_append]
  · rw [run_append, receipts_append, List.map_append, beforeTook, afterTook, List.filterMap_append]

theorem act {action : Action} {event? : Option Event} (acted : tracker.act action = (event?, next))
    (allowed : may action) (quiet : receipts event?.toList = []) : tracker.Reaches may [] next :=
  ⟨[action], by simpa using allowed, by simp [acted], by simp [acted, quiet]⟩

theorem look {id : PumpId} {now : Timestamp} (allowed : may (.look id now)) :
    tracker.Reaches may [(tracker.look id now).1] (tracker.look id now).2 := by
  refine ⟨[.look id now], by simpa using allowed, ?_⟩
  rw [run_cons, run_nil, Tracker.act]
  rcases tracker.look id now with ⟨_ | ⟨sighting, reaction⟩ | _, after⟩ <;> simp [receipts, Polled.taken?]

-- A turn is a run of one look or two, of which the first one takes nothing.
theorem poll {id : PumpId} {now : Timestamp} (allowed : may (.look id now)) :
    tracker.Reaches may [(tracker.poll id now).1] (tracker.poll id now).2 := by
  have first : tracker.Reaches may [(tracker.look id now).1] (tracker.look id now).2 := look allowed
  rcases tracker.poll_eq id now with ⟨once, -⟩ | ⟨twice, idle⟩
  · rw [once]
    exact first
  · rw [idle] at first
    obtain ⟨actions, each, same, took⟩ := first.append (look allowed)
    rw [twice]
    exact ⟨actions, each, same, took⟩

theorem offer {id : PumpId} {how : Waiting} {sighting : Sighting} (allowed : may (.send id how sighting)) :
    tracker.Reaches may [] (tracker.offer id how sighting).2 := by
  refine ⟨[.send id how sighting], by simpa using allowed, ?_⟩
  rw [run_cons, run_nil, Tracker.act]
  rcases tracker.offer id how sighting with ⟨_ | _ | _, after⟩ <;> simp [receipts]

theorem invariant {P : Tracker → Prop} (kept : ∀ {tracker next : Tracker} {action : Action} {event? : Option Event},
    may action → Effect tracker action event? next → P tracker → P next)
    (reaches : tracker.Reaches may turns next) (first : P tracker) : P next := by
  obtain ⟨actions, allowed, rfl, -⟩ := reaches
  exact run_invariant (fun member => kept (allowed _ member)) first

end Reaches

theorem act_dropIntake (tracker : Tracker) (id : PumpId) : tracker.act (.dropIntake id) =
    (none, tracker.modifyGeneration id.generation fun generation =>
      generation.setLane id.path (generation.lane id.path).dropSender) := by
  cases found : tracker.generations[id.generation]? with
  | none =>
    have absent : tracker.lane? id = none := by simp [lane?, found]
    have outside := List.getElem?_eq_none_iff.mp found
    simp only [act, absent, modifyGeneration, List.modify_eq_self outside]
  | some generation =>
    have here : tracker.lane? id = some (generation.lane id.path) := by simp [lane?, found]
    have changed : tracker.generations.modify id.generation
        (fun other => other.setLane id.path (generation.lane id.path).dropSender) =
        tracker.generations.modify id.generation
          (fun other => other.setLane id.path (other.lane id.path).dropSender) := by
      apply List.ext_getElem?
      intro index
      simp only [List.getElem?_modify]
      by_cases same : id.generation = index
      next =>
        subst same
        simp [found]
      next => simp [same]
    simp only [act, here, setLane, modifyGeneration]
    exact congrArg (fun generations => (none, { tracker with generations := generations })) changed

theorem Reaches.dropIntakes {may : Action → Prop} (allowed : ∀ id, may (.dropIntake id)) (tracker : Tracker)
    (index : Nat) : tracker.Reaches may [] (tracker.modifyGeneration index Generation.dropIntakes) := by
  refine ⟨[.dropIntake ⟨index, .iBeacon⟩, .dropIntake ⟨index, .overflowArea⟩], by simp [allowed], ?_⟩
  simp only [run_cons, run_nil, act_dropIntake, modifyGeneration, List.modify_modify_eq]
  exact ⟨rfl, rfl⟩

end Tracker

namespace Session

variable {session : Session}

/-- The tracker of the session does this much, and is held as before. -/
structure Acts (may : Tracker.Action → Prop) (session : Session) (turns : List Polled) (next : Session) : Prop where
  reached : session.tracker.Reaches may turns next.tracker
  held : next.isHeld = session.isHeld

section

variable {may : Tracker.Action → Prop}

theorem Acts.none (session : Session) : session.Acts may [] session :=
  ⟨.none _, rfl⟩

theorem Acts.append {middle next : Session} {turns later : List Polled} (first : session.Acts may turns middle)
    (second : middle.Acts may later next) : session.Acts may (turns ++ later) next :=
  ⟨first.reached.append second.reached, second.held.trans first.held⟩

variable (looks : ∀ id now, may (.look id now))

include looks

theorem isTurnwise_acts : IsTurnwise (Acts may) where
  none := .none
  append := .append
  poll session id := ⟨.poll (looks id session.clock.now), rfl⟩
  recount acts := ⟨acts.reached, acts.held⟩

theorem acts_settle (session : Session) : session.Acts may session.settle.1 session.settle.2 :=
  (isTurnwise_acts looks).settle session

variable {how : Waiting} (sends : ∀ id sighting, may (.send id how sighting))

include sends

theorem acts_give (id : PumpId) (sighting : Sighting) :
    session.Acts may (session.give id how sighting).2.1 (session.give id how sighting).2.2 := by
  have offered (other : Session) : other.Acts may [] (other.offer id how sighting).2 :=
    ⟨.offer (sends id sighting), rfl⟩
  cases gives : session.givesWay id how with
  | true =>
    have all := (acts_settle looks session).append (offered session.settle.2)
    simpa [give, gives] using all
  | false => simpa [give, gives] using offered session

theorem acts_handle (id : PumpId) (report : AdvertisementReport) :
    session.Acts may (session.handle id how report).2.1 (session.handle id how report).2.2 := by
  unfold handle
  split
  · exact .none session
  · exact acts_give looks sends id _

theorem acts_handleAll (id : PumpId) (reports : List AdvertisementReport) :
    session.Acts may (session.handleAll id how reports).2.1 (session.handleAll id how reports).2.2 := by
  induction reports generalizing session with
  | nil => exact .none session
  | cons report rest ih => exact (acts_handle looks sends id report).append ih

end

/-- The kinds of actions that a command causes in a session whose tracker is held or not. -/
inductive Command.Causes (held : Bool) : Command → Tracker.Action → Prop
  | looked (command : Command) (id : PumpId) (now : Timestamp) : Causes held command (.look id now)
  | started (isHeld : held = true) : Causes held .start .start
  | cancelled : Causes held .shutdown .cancel
  | joined (cause : String) : Causes held .shutdown (.join cause)
  | dropped : Causes held .drop .cancel
  | reported {generation : Option Nat} {path : IntakePath} {how : Waiting} {reports : List AdvertisementReport}
      (id : PumpId) (sighting : Sighting) : Causes held (.report generation path how reports) (.send id how sighting)
  | submitted {generation : Option Nat} {identity : BeaconIdentity} {rssi : Int32} (id : PumpId)
      (sighting : Sighting) : Causes held (.submit generation identity rssi) (.send id .suspended sighting)
  | intakeDropped {generation : Option Nat} (id : PumpId) : Causes held (.dropIntakes generation) (.dropIntake id)
  | seeded {identity : BeaconIdentity} {rssi : Int32} {now : Timestamp} :
      Causes held (.seed identity rssi now) (.use (.update identity rssi now))

-- A shutdown goes on from a cancelled tracker.
theorem acts_shutdown (session : Session) (held : Bool) :
    Acts (Command.Causes held .shutdown) { session with tracker := session.tracker.cancel } session.shutdown.2.1
      session.shutdown.2.2 := by
  have settled := acts_settle (@Command.Causes.looked held .shutdown)
    { session with tracker := session.tracker.cancel }
  have joined {tracker next : Tracker} {cause : String} {result : Except Error Unit}
      (joins : tracker.join cause = some (result, next)) : tracker.Reaches (Command.Causes held .shutdown) [] next := by
    have acted : tracker.act (.join cause) = (some (.returned result), next) := by simp only [Tracker.act, joins]
    exact .act acted (.joined cause) rfl
  simp only [shutdown]
  split
  case h_1 joins => exact ⟨by simpa using settled.reached.append (joined joins), settled.held⟩
  case h_2 joins => exact ⟨by simpa using settled.reached.append (joined joins), settled.held⟩
  case h_3 => exact settled

theorem toTracker_eq_ok {command : Except Abort (Response × List Polled × Session)}
    {outcome : Response × List Polled × Session} (given : session.toTracker command = .ok outcome) :
    (session.isHeld = true ∧ command = .ok outcome) ∨ session.isHeld = false ∧ outcome = (.dropped, [], session) := by
  rw [toTracker] at given
  split at given
  case isTrue held => exact .inl ⟨held, given⟩
  case isFalse gone =>
    injection given with same
    exact .inr ⟨by simpa using gone, same.symm⟩

section

variable {command : Command} {response : Response} {turns : List Polled} {next : Session}

-- Only a drop gives the tracker up.
theorem acts_perform (performed : session.perform command = .ok (response, turns, next)) (kept : command ≠ .drop) :
    session.Acts (command.Causes session.isHeld) turns next := by
  cases command with
  | start =>
    rcases toTracker_eq_ok performed with ⟨held, given⟩ | ⟨-, same⟩
    · rcases session.tracker.start_cases with ⟨channel, started, -⟩ | ⟨error, refused⟩ | ⟨abort, aborted⟩
      · rw [started] at given
        cases given
        have acted : session.tracker.act .start = (none, session.tracker.addGeneration channel) := by
          simp only [Tracker.act, started]
        exact ⟨.act acted (.started held) rfl, rfl⟩
      · rw [refused] at given
        cases given
        exact .none session
      · rw [aborted] at given
        cases given
    · cases same
      exact .none session
  | shutdown =>
    rcases toTracker_eq_ok performed with ⟨-, given⟩ | ⟨-, same⟩
    · have acts := session.acts_shutdown session.isHeld
      rw [Except.ok.inj given] at acts
      have cancelled : session.tracker.Reaches (Command.Causes session.isHeld .shutdown) [] session.tracker.cancel :=
        .act rfl .cancelled rfl
      exact ⟨cancelled.append acts.reached, acts.held⟩
    · cases same
      exact .none session
  | drop => exact absurd rfl kept
  | config | nearby =>
    rcases toTracker_eq_ok performed with ⟨-, given⟩ | ⟨-, same⟩
    · cases given
      exact .none session
    · cases same
      exact .none session
  | report generation path how reports =>
    rw [perform] at performed
    split at performed <;> cases performed
    · exact .none session
    · exact acts_handleAll (Command.Causes.looked _) Command.Causes.reported _ reports
  | submit generation identity rssi =>
    rw [perform] at performed
    split at performed <;> cases performed
    · exact .none session
    · exact acts_give (Command.Causes.looked _) Command.Causes.submitted _ _
  | dropIntakes generation =>
    simp only [perform] at performed
    split at performed <;> cases performed
    · exact ⟨.dropIntakes Command.Causes.intakeDropped _ _, rfl⟩
    · exact .none session
  | seed identity rssi now =>
    cases performed
    exact ⟨.act rfl .seeded rfl, rfl⟩

theorem perform_drop (performed : session.perform .drop = .ok (response, turns, next)) :
    turns = [] ∧ next.isHeld = false ∧
      next.tracker = (if session.isHeld then session.tracker.cancel else session.tracker) := by
  rcases toTracker_eq_ok performed with ⟨held, given⟩ | ⟨gone, same⟩
  · cases given
    simp [held]
  · cases same
    simp [gone]

theorem step_eq_ok (stepped : session.step command = .ok (response, turns, next)) :
    ∃ before middle, session.perform command = .ok (response, before, middle) ∧
      turns = before ++ middle.settle.1 ∧ next = middle.settle.2 := by
  rw [step] at stepped
  cases performed : session.perform command with
  | error => simp [performed, Except.map] at stepped
  | ok outcome =>
    obtain ⟨answer, before, middle⟩ := outcome
    rw [performed] at stepped
    cases stepped
    exact ⟨before, middle, rfl, rfl, rfl⟩

theorem reaches_step (stepped : session.step command = .ok (response, turns, next)) :
    session.tracker.Reaches (command.Causes session.isHeld) turns next.tracker := by
  obtain ⟨before, middle, performed, rfl, rfl⟩ := step_eq_ok stepped
  have settled := acts_settle (@Command.Causes.looked session.isHeld command) middle
  by_cases dropping : command = .drop
  next =>
    subst dropping
    obtain ⟨rfl, -, after⟩ := perform_drop performed
    have given : session.tracker.Reaches (Command.Causes session.isHeld .drop) [] middle.tracker := by
      rw [after]
      split
      case isTrue => exact .act rfl .dropped rfl
      case isFalse => exact .none _
    exact given.append settled.reached
  next => exact (acts_perform performed dropping).reached.append settled.reached

theorem run_cons_eq_ok {rest : List Command} {answers : List (Response × List Polled)}
    (ran : session.run (command :: rest) = .ok (answers, next)) :
    ∃ response turns middle others, session.step command = .ok (response, turns, middle) ∧
      middle.run rest = .ok (others, next) ∧ answers = (response, turns) :: others := by
  rw [run] at ran
  cases stepped : session.step command with
  | error => simp [stepped, bind, Except.bind] at ran
  | ok outcome =>
    obtain ⟨response, turns, middle⟩ := outcome
    cases others : middle.run rest with
    | error => simp [stepped, others, bind, Except.bind] at ran
    | ok last =>
      simp only [stepped, others, bind, Except.bind] at ran
      cases ran
      exact ⟨response, turns, middle, _, rfl, others, rfl⟩

end

end Session

end BeaconWatch
