import BeaconWatch.Proofs.Tracker.Endings

/-!
Generations that have ended. A shutdown or the drop of the tracker ends all generations that were started
before; what their intakes are given after that is refused, and nothing else happens.
-/

set_option autoImplicit false

namespace BeaconWatch

namespace Session

variable {session next : Session} {command : Command} {response : Response} {turns : List Polled}
  {commands : List Command} {answers : List (Response × List Polled)} {id : PumpId}

theorem run_invariant {P : Session → Prop} (kept : ∀ {session next : Session} {command : Command}
    {response : Response} {turns : List Polled}, session.step command = .ok (response, turns, next) → P session → P next)
    (ran : session.run commands = .ok (answers, next)) (first : P session) : P next := by
  induction commands generalizing session answers with
  | nil =>
    cases ran
    exact first
  | cons command rest ih =>
    obtain ⟨response, turns, middle, others, stepped, later, -⟩ := run_cons_eq_ok ran
    exact ih later (kept stepped first)

/-- What holds of a session between its commands. -/
structure IsOrderly (session : Session) : Prop where
  settled : session.IsSettled
  accounts : ∃ events, session.tracker.Accounts events
  old : session.tracker.CancelsOld
  released : session.isHeld = false → session.tracker.isCancelled session.tracker.token = true

theorem isOrderly_create {config : TrackerConfig} {callback : Option Callback} {tracker : Tracker}
    (created : Tracker.create config callback = .ok tracker) (clock : Clock) :
    IsOrderly { tracker := tracker, clock := clock } := by
  have accounts := Tracker.accounts_create created
  rw [Tracker.create_eq_ok created] at accounts ⊢
  refine ⟨?_, ⟨[], accounts⟩, ?_, ?_⟩
  · intro id lane here
    cases here
  · intro token member
    cases member
  · intro released
    cases released

theorem cancelled_of_released (released : session.isHeld = false)
    (cancelled : session.tracker.isCancelled session.tracker.token = true)
    (stepped : session.step command = .ok (response, turns, next)) :
    next.tracker.isCancelled next.tracker.token = true := by
  have reaches := reaches_step stepped
  rw [released] at reaches
  apply reaches.token_cancelled _ cancelled
  intro causes
  cases causes with
  | started held => cases held

theorem IsOrderly.cancelled_of_ending (orderly : session.IsOrderly) (ends : command = .shutdown ∨ command = .drop)
    (stepped : session.step command = .ok (response, turns, next)) :
    next.tracker.isCancelled next.tracker.token = true := by
  cases held : session.isHeld with
  | false => exact cancelled_of_released held (orderly.released held) stepped
  | true =>
    have now : session.tracker.cancel.isCancelled session.tracker.token = true := by
      simp [Tracker.isCancelled, Tracker.cancel]
    have restless : ¬ command.Causes true .start := by
      intro causes
      cases causes
      simp at ends
    obtain ⟨before, middle, performed, -, rfl⟩ := step_eq_ok stepped
    have settled := (acts_settle (@Command.Causes.looked true command) middle).reached
    rcases ends with rfl | rfl
    · rcases toTracker_eq_ok performed with ⟨-, given⟩ | ⟨gone, -⟩
      · have acts := session.acts_shutdown true
        rw [Except.ok.inj given] at acts
        exact (acts.reached.append settled).token_cancelled restless now
      · exact absurd (held.symm.trans gone) (by decide)
    · obtain ⟨-, -, after⟩ := perform_drop performed
      rw [held, if_pos rfl] at after
      rw [after] at settled
      exact settled.token_cancelled restless now

theorem IsOrderly.step (orderly : session.IsOrderly) (stepped : session.step command = .ok (response, turns, next)) :
    next.IsOrderly := by
  have reaches := reaches_step stepped
  obtain ⟨before, middle, performed, -, same⟩ := step_eq_ok stepped
  constructor
  · rw [same]
    exact isSettled_settle middle
  · apply reaches.invariant (P := fun tracker => ∃ events, tracker.Accounts events) _ orderly.accounts
    intro _ _ _ _ _ effect kept
    obtain ⟨events, accounts⟩ := kept
    exact ⟨_, accounts.effect effect⟩
  · exact reaches.invariant (fun _ effect kept => kept.effect effect) orderly.old
  · intro released
    by_cases dropping : command = .drop
    next => exact orderly.cancelled_of_ending (.inr dropping) stepped
    next =>
      have settled := acts_settle (@Command.Causes.looked true command) middle
      rw [same, settled.held, (acts_perform performed dropping).held] at released
      exact cancelled_of_released released (orderly.released released) stepped

theorem IsOrderly.run (orderly : session.IsOrderly) (ran : session.run commands = .ok (answers, next)) :
    next.IsOrderly :=
  run_invariant (fun stepped kept => kept.step stepped) ran orderly

theorem hasEnded_run (ended : session.tracker.HasEnded id) (ran : session.run commands = .ok (answers, next)) :
    next.tracker.HasEnded id := by
  apply run_invariant (P := fun session => session.tracker.HasEnded id) _ ran ended
  intro _ _ _ _ _ stepped kept
  exact (reaches_step stepped).invariant (P := fun tracker => tracker.HasEnded id)
    (fun _ effect kept => kept.effect effect) kept

-- A pump that is idle although it is asked to stop is not there any more.
theorem hasEnded_of_ending (orderly : session.IsOrderly) (ends : command = .shutdown ∨ command = .drop)
    (stepped : session.step command = .ok (response, turns, next)) {lane : Lane}
    (here : session.tracker.lane? id = some lane) : next.tracker.HasEnded id := by
  have after := orderly.step stepped
  obtain ⟨left, there⟩ : ∃ left, next.tracker.lane? id = some left := by
    apply (reaches_step stepped).invariant (P := fun tracker => ∃ left, tracker.lane? id = some left) _ ⟨lane, here⟩
    intro _ _ _ _ _ effect kept
    obtain ⟨before, found⟩ := kept
    obtain ⟨left, there, -⟩ := effect.step_lane found
    exact ⟨left, there⟩
  have asked := Tracker.isAsked_of_cancelled after.old (orderly.cancelled_of_ending ends stepped) there
  have gone : left.pump ≠ .running := by
    intro running
    obtain ⟨-, -, unasked⟩ := after.settled id left there running
    exact absurd (asked.symm.trans unasked) (by decide)
  obtain ⟨events, accounts⟩ := after.accounts
  exact ⟨left, there, gone, ((accounts.lanes there).shut gone).2⟩

section

variable (settled : session.IsSettled) (ended : session.tracker.HasEnded id)

include settled ended

theorem give_of_hasEnded (how : Waiting) (sighting : Sighting) :
    (session.give id how sighting).1 = .closed ∧
      session.Unmoved (session.give id how sighting).2.1 (session.give id how sighting).2.2 := by
  have refused (ready : Session) (same : ready.tracker = session.tracker) :
      ready.tracker.offer id how sighting = (.closed, session.tracker) := by
    rw [same, ended.offer]
  cases gives : session.givesWay id how with
  | true =>
    have unmoved := unmoved_settle settled
    simp only [give, gives, if_true, offer, refused _ unmoved.tracker]
    exact ⟨trivial, unmoved.idle, rfl, unmoved.held⟩
  | false =>
    simp only [give, gives, Bool.false_eq_true, if_false, offer, refused _ rfl]
    exact ⟨trivial, by simp, rfl, rfl⟩

/-- What an intake answers to a report once its generation has ended. -/
def refusal (tracker : Tracker) (path : IntakePath) (report : AdvertisementReport) : Handled :=
  match tracker.found path report with
  | .ok (some _) => .given .closed
  | .ok none | .error _ => .ignored

theorem handle_of_hasEnded (how : Waiting) (report : AdvertisementReport) :
    (session.handle id how report).1 = refusal session.tracker id.path report ∧
      session.Unmoved (session.handle id how report).2.1 (session.handle id how report).2.2 := by
  cases found : session.tracker.found id.path report with
  | error error =>
    simp only [handle, screen, refusal, found]
    exact ⟨trivial, .none session⟩
  | ok sighting? =>
    cases sighting? with
    | none =>
      simp only [handle, screen, refusal, found]
      exact ⟨trivial, .none session⟩
    | some sighting =>
      obtain ⟨closed, unmoved⟩ := give_of_hasEnded settled ended how sighting
      simp only [handle, screen, refusal, found, closed]
      exact ⟨trivial, unmoved⟩

theorem handleAll_of_hasEnded (how : Waiting) (reports : List AdvertisementReport) :
    (session.handleAll id how reports).1 = reports.map (refusal session.tracker id.path) ∧
      session.Unmoved (session.handleAll id how reports).2.1 (session.handleAll id how reports).2.2 := by
  induction reports generalizing session with
  | nil => exact ⟨rfl, .none session⟩
  | cons report rest ih =>
    obtain ⟨first, unmoved⟩ := handle_of_hasEnded settled ended how report
    have same := unmoved.tracker
    obtain ⟨others, later⟩ := @ih (session.handle id how report).2.2 (by rwa [IsSettled, same]) (by rwa [same])
    rw [same] at others
    exact ⟨congrArg₂ List.cons first others, unmoved.append later⟩

end

/-- What the pumps took in a run. -/
def takenIn (answers : List (Response × List Polled)) : List Sighting :=
  answers.flatMap fun answer => answer.2.filterMap Polled.taken?

-- The commands that can bring sightings to an intake.
def Command.gives : Command → Bool
  | .report _ _ _ _ | .submit _ _ _ => true
  | .start | .shutdown | .drop | .config | .nearby | .dropIntakes _ | .seed _ _ _ => false

theorem registry_run (unseeded : ∀ identity rssi now, .seed identity rssi now ∉ commands)
    (ran : session.run commands = .ok (answers, next)) (took : takenIn answers = []) :
    next.tracker.registry = session.tracker.registry := by
  induction commands generalizing session answers with
  | nil =>
    cases ran
    rfl
  | cons command rest ih =>
    obtain ⟨response, turns, middle, others, stepped, later, rfl⟩ := run_cons_eq_ok ran
    rw [takenIn, List.flatMap_cons, List.append_eq_nil_iff] at took
    have unused : ∀ operation, ¬ command.Causes session.isHeld (.use operation) := by
      intro operation causes
      cases causes with
      | seeded => exact unseeded _ _ _ List.mem_cons_self
    have first := (reaches_step stepped).registry_eq took.1 unused
    have others := ih (fun identity rssi now member => unseeded identity rssi now (List.mem_cons_of_mem _ member)) later took.2
    exact others.trans first

theorem takenIn_run (orderly : session.IsOrderly) (silent : ∀ command ∈ commands, command.gives = false)
    (ran : session.run commands = .ok (answers, next)) : takenIn answers = [] := by
  induction commands generalizing session answers with
  | nil =>
    cases ran
    rfl
  | cons command rest ih =>
    obtain ⟨response, turns, middle, others, stepped, later, rfl⟩ := run_cons_eq_ok ran
    have drained : session.tracker.IsDrained := fun id lane here running => (orderly.settled id lane here running).1
    have quiet : ∀ id how sighting, ¬ command.Causes session.isHeld (.send id how sighting) := by
      intro id how sighting causes
      have gives := silent command List.mem_cons_self
      cases causes <;> cases gives
    have first := (reaches_step stepped).taken_eq_nil drained quiet
    have others := ih (orderly.step stepped) (fun other member => silent other (List.mem_cons_of_mem _ member)) later
    rw [takenIn, List.flatMap_cons, first]
    exact others

/-- After a shutdown or the drop of the tracker, whatever came before and comes later, the intakes of all
generations that were there refuse what has a sighting to send, answer as ever to what has none, and change
nothing. Starts, shutdowns and the drop record nothing, and the registry stays while nothing is recorded. -/
theorem ended_generations_inert {config : TrackerConfig} {callback : Option Callback} {tracker : Tracker}
    (created : Tracker.create config callback = .ok tracker) {clock : Clock} {history later : List Command}
    {past : List (Response × List Polled)} {current : Session}
    (before : Session.run { tracker := tracker, clock := clock } history = .ok (past, session))
    {ending : Command} (ends : ending = .shutdown ∨ ending = .drop)
    (after : session.run (ending :: later) = .ok (answers, current)) :
    (∀ index generation?, index < session.tracker.generations.length → current.intakes? generation? = some index →
      (∀ path how reports, ∃ turns next,
        current.step (.report generation? path how reports) =
          .ok (.handled (reports.map (refusal current.tracker path)), turns, next) ∧ current.Unmoved turns next) ∧
      ∀ identity rssi, ∃ turns next,
        current.step (.submit generation? identity rssi) = .ok (.handled [.given .closed], turns, next) ∧
          current.Unmoved turns next) ∧
      (∀ commands others next, session.run commands = .ok (others, next) →
        (∀ command ∈ commands, command.gives = false) → takenIn others = []) ∧
      ∀ commands others next, session.run commands = .ok (others, next) →
        (∀ identity rssi now, .seed identity rssi now ∉ commands) → takenIn others = [] →
          next.tracker.registry = session.tracker.registry := by
  have orderly := (isOrderly_create created clock).run before
  obtain ⟨response, turns, ended, others, stepped, ran, -⟩ := run_cons_eq_ok after
  have settled := ((orderly.step stepped).run ran).settled
  refine ⟨?_, ?_, ?_⟩
  · intro index generation? inside intakes
    have stale (path : IntakePath) : current.tracker.HasEnded ⟨index, path⟩ := by
      have here : session.tracker.lane? ⟨index, path⟩ = some (session.tracker.generations[index].lane path) := by
        simp [Tracker.lane?, inside]
      exact hasEnded_run (hasEnded_of_ending orderly ends stepped here) ran
    constructor
    · intro path how reports
      obtain ⟨refused, unmoved⟩ := handleAll_of_hasEnded settled (stale path) how reports
      have still := unmoved_settle (show IsSettled _ by rwa [IsSettled, unmoved.tracker])
      refine ⟨_, _, ?_, unmoved.append still⟩
      simp only [step, perform, intakes, Except.map, refused]
    · intro identity rssi
      obtain ⟨refused, unmoved⟩ := give_of_hasEnded settled (stale .iBeacon) .suspended (.of identity rssi .iBeacon)
      have still := unmoved_settle (show IsSettled _ by rwa [IsSettled, unmoved.tracker])
      refine ⟨_, _, ?_, unmoved.append still⟩
      simp only [step, perform, intakes, Except.map, refused]
  · intro commands others next ran silent
    exact takenIn_run orderly silent ran
  · intro commands others next ran unseeded took
    exact registry_run unseeded ran took

-- The callback fails, so the shutdown does too; a second generation is at work when the first one's intake is used.
theorem ended_generations_inert_after_failure :
    let callback : Callback := fun _ sighting => if sighting.minor = 13 then .fails else .returns
    let history : List Command := [.start, .submit none ⟨1, 13, -59⟩ (-70)]
    let later : List Command := [.start, .submit none ⟨2, 7, -59⟩ (-70)]
    ∃ tracker past session answers current,
      Tracker.create {} (some callback) = .ok tracker ∧
      Session.run { tracker := tracker, clock := ⟨fun _ => .epoch, 0⟩ } history = .ok (past, session) ∧
      session.run (.shutdown :: later) = .ok (answers, current) ∧
      answers.map Prod.fst = [.failed .intakeTaskFailed, .started, .handled [.given .sent]] ∧
      takenIn answers = [⟨2, 7, -59, -70, .iBeacon⟩] ∧
      ∃ turns next, current.step (.submit (some 0) ⟨2, 8, -59⟩ (-60)) = .ok (.handled [.given .closed], turns, next) ∧
        current.Unmoved turns next := by
  intro callback history later
  obtain ⟨tracker, created, started⟩ : ∃ tracker, Tracker.create {} (some callback) = .ok tracker ∧
      tracker = { config := {}, registry := ⟨TrackerConfig.expiration {}, []⟩, callback := some callback } :=
    ⟨_, rfl, rfl⟩
  have evaluated : (match Session.run { tracker := tracker, clock := ⟨fun _ => .epoch, 0⟩ } history with
      | .error _ => false
      | .ok (_, session) =>
        match session.run (.shutdown :: later) with
        | .error _ => false
        | .ok (answers, current) => decide (
            answers.map Prod.fst = [.failed .intakeTaskFailed, .started, .handled [.given .sent]] ∧
            takenIn answers = [⟨2, 7, -59, -70, .iBeacon⟩] ∧
            0 < session.tracker.generations.length ∧ current.intakes? (some 0) = some 0)) = true := by
    rw [started]
    decide
  split at evaluated
  case h_1 => cases evaluated
  case h_2 past session before =>
    split at evaluated
    case h_1 => cases evaluated
    case h_2 answers current after =>
      obtain ⟨responses, taken, inside, intakes⟩ := of_decide_eq_true evaluated
      have inert := ended_generations_inert created before (.inl rfl) after
      exact ⟨tracker, past, session, answers, current, created, before, after, responses, taken,
        (inert.1 0 (some 0) inside intakes).2 ⟨2, 8, -59⟩ (-60)⟩

end Session

end BeaconWatch
