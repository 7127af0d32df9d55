import BeaconWatch.Proofs.Intake.Handling
import BeaconWatch.Proofs.Overflow.Sightings
import BeaconWatch.SharedIntake

/-!
A channel loses nothing and makes nothing up. Whatever its three producers, its receiver and their drops do in
turn, what was received and what is queued are the sightings of the calls that succeeded.
-/

set_option autoImplicit false

namespace BeaconWatch

-- Only payloads of five bytes are sighted, and these are far from the limits of words.
theorem OverflowIntake.sightingInWords_of_screened {intake : OverflowIntake} {report : AdvertisementReport}
    {sighting : Sighting} (screened : screen (intake.sighting report) = some sighting) :
    intake.sightingInWords report = .ok (intake.sighting report) := by
  obtain ⟨raw, -, identity, identified, -⟩ := (sighting_eq_some_iff ..).mp (screen_eq_some_iff.mp screened)
  obtain ⟨payload, inspected, read⟩ := (Overflow.Extractor.identify_eq_some_iff ..).mp identified
  have size := (Overflow.inspect_eq_payload_iff.mp inspected).2.1
  apply sightingInWords_eq
  rw [← size, Overflow.length_of_interpret read]
  decide

namespace SharedIntake

variable {shared next : SharedIntake} {step : Step} {answer : Except Abort Answer} {sighting : Sighting}
  {calls : List (Step × Except Abort Answer)} {capacity : Nat}

/-- What a call can do to the channel and its ends. -/
inductive Effect (shared : SharedIntake) : Step → Except Abort Answer → SharedIntake → Prop
  | nothing {step : Step} {answer : Except Abort Answer} (fails : isSuccess answer = false)
      (empty : received [(step, answer)] = []) : Effect shared step answer shared
  | sent {step : Step} {answer : Answer} {sighting : Sighting} (offered : shared.offered? step = some sighting)
      (succeeds : answer.result? = some .sent) (receiving : shared.channel.hasReceiver = true)
      (room : shared.channel.queue.length < shared.channel.capacity) :
      Effect shared step (.ok answer)
        { shared with channel := { shared.channel with queue := shared.channel.queue ++ [sighting] } }
  | received {sighting : Sighting} {rest : List Sighting} (next : shared.channel.queue = sighting :: rest) :
      Effect shared .receive (.ok (.received (.item sighting)))
        { shared with channel := { shared.channel with queue := rest } }
  | dropped {part : ChannelEnd} (there : shared.has part = true) :
      Effect shared (.drop part) (.ok .done) (shared.removeEnd part)

theorem received_of_result {answer : Answer} {result : SendResult} (said : answer.result? = some result) :
    received [(step, .ok answer)] = [] := by
  cases answer with
  | handled | given => rfl
  | received | done | dropped => cases said

theorem effect_of_send {answer : Answer} {how : Waiting} (offered : shared.offered? step = some sighting)
    (said : answer.result? = some (shared.channel.send how sighting).1) :
    Effect shared step (.ok answer) { shared with channel := (shared.channel.send how sighting).2 } := by
  rcases shared.channel.send_cases how sighting with ⟨receiving, room, sent⟩ | ⟨result, refused, same⟩
  · rw [sent] at said ⊢
    exact .sent offered said receiving room
  · rw [same] at said ⊢
    exact .nothing (by simpa [isSuccess, said] using refused) (received_of_result said)

theorem offered?_handleIBeacon (how : Waiting) (report : AdvertisementReport) :
    shared.offered? (.handleIBeacon how report) = screen (shared.iBeacon.sighting report) := by
  rw [offered?]
  rcases shared.iBeacon.sighting report with error | _ | sighting <;> rfl

theorem offered?_handleOverflow (how : Waiting) (report : AdvertisementReport) :
    shared.offered? (.handleOverflow how report) = screen (shared.overflow.sighting report) := by
  rw [offered?]
  rcases shared.overflow.sighting report with error | _ | sighting <;> rfl

/-- A call that has something to send gives it to the channel, and passes on what the channel says. -/
theorem perform_of_offered (offered : shared.offered? step = some sighting) :
    ∃ how, (shared.perform step).1.result? = some (shared.channel.send how sighting).1 ∧
      (shared.perform step).2 = { shared with channel := (shared.channel.send how sighting).2 } := by
  cases step with
  | handleIBeacon how report =>
    have found : screen (shared.iBeacon.sighting report) = some sighting := offered?_handleIBeacon .. ▸ offered
    exact ⟨how, by simp [perform, IBeaconIntake.handle, handleFound, found, Answer.result?]⟩
  | handleOverflow how report =>
    have found : screen (shared.overflow.sighting report) = some sighting := offered?_handleOverflow .. ▸ offered
    exact ⟨how, by simp [perform, OverflowIntake.handle, handleFound, found, Answer.result?]⟩
  | submit =>
    cases offered
    exact ⟨.suspended, rfl, rfl⟩
  | send how =>
    cases offered
    exact ⟨how, rfl, rfl⟩
  | receive | drop => cases offered

theorem effect_perform (there : step.usedEnd?.all shared.has = true) :
    Effect shared step (.ok (shared.perform step).1) (shared.perform step).2 := by
  cases offered : shared.offered? step with
  | some sighting =>
    obtain ⟨how, said, leaves⟩ := perform_of_offered offered
    rw [leaves]
    exact effect_of_send offered said
  | none =>
    cases step with
    | handleIBeacon how report =>
      have found : screen (shared.iBeacon.sighting report) = none := offered?_handleIBeacon .. ▸ offered
      simp only [perform, IBeaconIntake.handle, handleFound, found]
      exact .nothing rfl rfl
    | handleOverflow how report =>
      have found : screen (shared.overflow.sighting report) = none := offered?_handleOverflow .. ▸ offered
      simp only [perform, OverflowIntake.handle, handleFound, found]
      exact .nothing rfl rfl
    | submit | send => cases offered
    | receive =>
      cases next : shared.channel.queue with
      | nil =>
        simp only [perform, Channel.receive, next]
        exact .nothing rfl (by split <;> rfl)
      | cons sighting rest =>
        simp only [perform, Channel.receive, next]
        exact .received next
    | drop part =>
      rw [perform, dropEnd]
      split
      case isTrue there => exact .dropped there
      case isFalse => exact .nothing rfl rfl

theorem effect_step (shared : SharedIntake) (step : Step) :
    Effect shared step (.ok (shared.step step).1) (shared.step step).2 := by
  rw [SharedIntake.step]
  split
  case isTrue there => exact effect_perform there
  case isFalse => exact .nothing rfl rfl

theorem tryStep_cases (shared : SharedIntake) (step : Step) :
    shared.tryStep step = (.ok (shared.step step).1, (shared.step step).2) ∨
      ∃ abort, shared.tryStep step = (.error abort, shared) := by
  cases step with
  | handleOverflow how report =>
    cases there : shared.hasOverflow with
    | false => exact .inl (by simp [tryStep, stepInWords, there])
    | true =>
      cases words : shared.overflow.sightingInWords report with
      | error abort => exact .inr ⟨abort, by simp [tryStep, stepInWords, there, words, Except.map]⟩
      | ok => exact .inl (by simp [tryStep, stepInWords, there, words, Except.map])
  | _ => exact .inl rfl

theorem effect_tryStep (shared : SharedIntake) (step : Step) :
    Effect shared step (shared.tryStep step).1 (shared.tryStep step).2 := by
  rcases shared.tryStep_cases step with done | ⟨abort, aborted⟩
  · rw [done]
    exact shared.effect_step step
  · rw [aborted]
    exact .nothing rfl rfl

-- A call with something to send does not abort.
theorem tryStep_of_offered (offered : shared.offered? step = some sighting) (there : step.usedEnd?.all shared.has = true) :
    shared.tryStep step = (.ok (shared.perform step).1, (shared.perform step).2) := by
  have done : shared.stepInWords step = .ok (shared.step step) := by
    cases step with
    | handleOverflow how report =>
      have held : shared.hasOverflow = true := by simpa [Step.usedEnd?, has] using there
      rw [offered?_handleOverflow] at offered
      simp [stepInWords, held, OverflowIntake.sightingInWords_of_screened offered, Except.map]
    | _ => rfl
  rw [tryStep, done, SharedIntake.step, if_pos there]

theorem Effect.offered?_eq (effect : Effect shared step answer next) : next.offered? = shared.offered? := by
  funext other
  cases effect with
  | @dropped part => cases part <;> cases other <;> rfl
  | _ => cases other <;> rfl

/-- The senders of the channel are the producers that are left, and while it has its receiver, what the
successful calls had to send is what was received and what waits. -/
structure Balanced (capacity : Nat) (calls : List (Step × Except Abort Answer)) (shared : SharedIntake) : Prop where
  capacity_eq : shared.channel.capacity = capacity
  bounded : shared.channel.queue.length ≤ capacity
  senders : shared.channel.senders = shared.hasSender.toNat + shared.hasIBeacon.toNat + shared.hasOverflow.toNat
  conserved : shared.channel.hasReceiver = true →
    shared.sent calls = (received calls ++ shared.channel.queue).map some

theorem sent_concat : shared.sent (calls ++ [(step, answer)]) =
    shared.sent calls ++ if isSuccess answer then [shared.offered? step] else [] := by
  by_cases succeeds : isSuccess answer <;> simp [sent, List.filter_append, succeeds]

@[simp] theorem received_append (first second : List (Step × Except Abort Answer)) :
    received (first ++ second) = received first ++ received second :=
  List.filterMap_append

theorem Effect.sent_eq (effect : Effect shared step answer next) : next.sent calls = shared.sent calls := by
  simp only [SharedIntake.sent, effect.offered?_eq]

/-- What was queued and what the call added is what the call took and what is queued then. -/
theorem Effect.conserves (effect : Effect shared step answer next) (receiving : next.channel.hasReceiver = true) :
    shared.channel.hasReceiver = true ∧
      shared.channel.queue.map some ++ (if isSuccess answer then [shared.offered? step] else []) =
        (SharedIntake.received [(step, answer)] ++ next.channel.queue).map some := by
  cases effect with
  | nothing fails empty => simp [fails, empty, receiving]
  | sent offered succeeds before => simp [isSuccess, succeeds, received_of_result succeeds, offered, before]
  | received next =>
    have before : shared.channel.hasReceiver = true := receiving
    simp [isSuccess, Answer.result?, SharedIntake.received, next, before]
  | @dropped part =>
    cases part with
    | receiver => cases receiving
    | sender | iBeacon | overflow =>
      refine ⟨receiving, ?_⟩
      simp [isSuccess, Answer.result?, SharedIntake.received, removeEnd, Channel.dropSender]

theorem Effect.bounded (effect : Effect shared step answer next) :
    next.channel.capacity = shared.channel.capacity ∧
      (shared.channel.queue.length ≤ shared.channel.capacity →
        next.channel.queue.length ≤ shared.channel.capacity) := by
  cases effect with
  | nothing => exact ⟨rfl, id⟩
  | sent _ _ _ room => exact ⟨rfl, by simp only [List.length_append, List.length_singleton]; omega⟩
  | received next => exact ⟨rfl, by simp only [next, List.length_cons]; omega⟩
  | @dropped part => cases part <;> simp [removeEnd, Channel.dropSender, Channel.dropReceiver]

theorem Effect.senders_eq (effect : Effect shared step answer next)
    (senders : shared.channel.senders = shared.hasSender.toNat + shared.hasIBeacon.toNat + shared.hasOverflow.toNat) :
    next.channel.senders = next.hasSender.toNat + next.hasIBeacon.toNat + next.hasOverflow.toNat := by
  cases effect with
  | nothing | sent | received => exact senders
  | @dropped part there =>
    cases part with
    | receiver => exact senders
    | sender | iBeacon | overflow =>
      rw [has] at there
      simp only [there, Bool.toNat_true] at senders
      simp only [removeEnd, Channel.dropSender, senders, Bool.toNat_false]
      omega

theorem Balanced.effect (balanced : Balanced capacity calls shared) (effect : Effect shared step answer next) :
    Balanced capacity (calls ++ [(step, answer)]) next := by
  obtain ⟨size, bounded⟩ := effect.bounded
  rw [balanced.capacity_eq] at size bounded
  refine ⟨size, bounded balanced.bounded, effect.senders_eq balanced.senders, ?_⟩
  intro receiving
  obtain ⟨before, moved⟩ := effect.conserves receiving
  rw [effect.sent_eq, sent_concat, balanced.conserved before, List.map_append, List.append_assoc, moved, received_append]
  simp

theorem Balanced.run (balanced : Balanced capacity calls shared) (steps : List Step) :
    Balanced capacity (calls ++ (shared.runInWords steps).1) (shared.runInWords steps).2 := by
  induction steps generalizing shared calls with
  | nil => simpa [runInWords] using balanced
  | cons step rest ih =>
    have later := ih (balanced.effect (shared.effect_tryStep step))
    simpa [runInWords] using later

theorem offered?_run (shared : SharedIntake) (steps : List Step) :
    (shared.runInWords steps).2.offered? = shared.offered? := by
  induction steps generalizing shared with
  | nil => rfl
  | cons step rest ih => exact (ih _).trans (shared.effect_tryStep step).offered?_eq

theorem map_fst_run (shared : SharedIntake) (steps : List Step) : (shared.runInWords steps).1.map Prod.fst = steps := by
  induction steps generalizing shared with
  | nil => rfl
  | cons step rest ih => simp [runInWords, ih]

theorem balanced_create (usable : Channel.IsUsable capacity) (iBeacon : IBeaconIntake) (overflow : OverflowIntake) :
    ∃ shared, create capacity iBeacon overflow = .ok shared ∧ shared.iBeacon = iBeacon ∧ shared.overflow = overflow ∧
      Balanced capacity [] shared := by
  refine ⟨_, by rw [create, Channel.create_eq_ok_iff.mpr ⟨usable, rfl⟩]; rfl, rfl, rfl, ?_⟩
  exact ⟨rfl, Nat.zero_le _, rfl, fun _ => rfl⟩

theorem receive_closed_iff (balanced : Balanced capacity calls shared) :
    (shared.tryStep .receive).1 = .ok (.received .closed) ↔
      shared.channel.hasReceiver = true ∧ shared.channel.queue = [] ∧
        shared.hasSender = false ∧ shared.hasIBeacon = false ∧ shared.hasOverflow = false := by
  have tried : (shared.tryStep .receive).1 = .ok (shared.step .receive).1 := rfl
  have none : shared.channel.senders = 0 ↔
      shared.hasSender = false ∧ shared.hasIBeacon = false ∧ shared.hasOverflow = false := by
    rw [balanced.senders]
    cases shared.hasSender <;> cases shared.hasIBeacon <;> cases shared.hasOverflow <;> decide
  rw [tried, ← none]
  cases receiving : shared.channel.hasReceiver with
  | false => simp [step, Step.usedEnd?, has, receiving]
  | true =>
    cases next : shared.channel.queue with
    | cons => simp [step, Step.usedEnd?, has, receiving, perform, Channel.receive, next]
    | nil => by_cases gone : shared.channel.senders = 0 <;>
        simp [step, Step.usedEnd?, has, receiving, perform, Channel.receive, next, gone]

theorem Effect.eq_of_fails (effect : Effect shared step answer next) (called : step ≠ .receive)
    (kept : ∀ part, step ≠ .drop part) (fails : isSuccess answer = false) : next = shared := by
  cases effect with
  | nothing => rfl
  | sent _ succeeds => simp [isSuccess, succeeds] at fails
  | received => exact absurd rfl called
  | dropped => exact absurd rfl (kept _)

/-- While the receiver is there, what was received and what is queued are the sightings of the calls that
succeeded, one for each and in their order. The queue stays within the capacity, a call that does not succeed
leaves everything as it was, the end is received only when nothing is queued and no producer is left, and a call
that has something to send is answered by what the channel can do. -/
theorem sightings_conserved (usable : 1 ≤ capacity ∧ capacity ≤ 2 ^ 61 - 1) (iBeacon : IBeaconIntake)
    (overflow : OverflowIntake) (steps : List Step) :
    ∃ shared, create capacity iBeacon overflow = .ok shared ∧ shared.iBeacon = iBeacon ∧ shared.overflow = overflow ∧
      let calls := (shared.runInWords steps).1
      let after := (shared.runInWords steps).2
      calls.map Prod.fst = steps ∧
        (after.channel.hasReceiver = true → shared.sent calls = (received calls ++ after.channel.queue).map some) ∧
        after.channel.queue.length ≤ capacity ∧
        (∀ step, step ≠ .receive → (∀ part, step ≠ .drop part) → isSuccess (after.tryStep step).1 = false →
          (after.tryStep step).2 = after) ∧
        ((after.tryStep .receive).1 = .ok (.received .closed) ↔
          after.channel.hasReceiver = true ∧ after.channel.queue = [] ∧
            after.hasSender = false ∧ after.hasIBeacon = false ∧ after.hasOverflow = false) ∧
        ∀ step sighting, shared.offered? step = some sighting → step.usedEnd?.all after.has = true →
          ∃ how answer, (after.tryStep step).1 = .ok answer ∧ answer.result? = some
            (if after.channel.hasReceiver then
              if after.channel.queue.length < capacity then .sent else .waits how
            else .closed) := by
  obtain ⟨shared, created, first, second, balanced⟩ := balanced_create usable iBeacon overflow
  refine ⟨shared, created, first, second, ?_⟩
  intro calls after
  have later : Balanced capacity calls after := by simpa using balanced.run steps
  have same : after.offered? = shared.offered? := shared.offered?_run steps
  refine ⟨shared.map_fst_run steps, ?_, later.bounded, ?_, receive_closed_iff later, ?_⟩
  · intro receiving
    rw [← later.conserved receiving, sent, sent, same]
  · intro step called kept fails
    exact (after.effect_tryStep step).eq_of_fails called kept fails
  · intro step sighting offered there
    rw [← same] at offered
    obtain ⟨how, said, -⟩ := perform_of_offered offered
    refine ⟨how, _, by rw [tryStep_of_offered offered there], ?_⟩
    rw [said, Channel.send, Channel.hasRoom, later.capacity_eq]
    cases after.channel.hasReceiver <;> by_cases room : after.channel.queue.length < capacity <;> simp [room]

-- The third call has to wait, and the end does not show before the second sighting is received.
theorem sightings_conserved_when_full :
    let first : Sighting := ⟨2, 7777, -59, -70, .overflowArea⟩
    let steps : List Step := [.send .suspended first, .submit ⟨3, 42, -61⟩ (-64), .send .blocked first, .receive,
      .drop .sender, .drop .iBeacon, .drop .overflow]
    ∃ shared, create 2 {} {} = .ok shared ∧ (1 ≤ 2 ∧ 2 ≤ 2 ^ 61 - 1) ∧
      shared.sent (shared.runInWords steps).1 = [some first, some ⟨3, 42, -61, -64, .iBeacon⟩] ∧
      received (shared.runInWords steps).1 = [first] ∧
      ((shared.runInWords steps).2.tryStep .receive).1 ≠ .ok (.received .closed) := by
  intro first steps
  have usable : 1 ≤ 2 ∧ 2 ≤ 2 ^ 61 - 1 := by decide
  obtain ⟨shared, created, -, -, -, conserved, -, -, ends, -⟩ := sightings_conserved usable {} {} steps
  cases created
  refine ⟨_, rfl, usable, conserved rfl, rfl, ?_⟩
  intro closed
  exact absurd (ends.mp closed).2.1 (by decide)

end SharedIntake

end BeaconWatch
