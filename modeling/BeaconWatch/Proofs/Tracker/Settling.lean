import BeaconWatch.Proofs.Tracker.Lanes
import BeaconWatch.Tracker.Session

/-!
How the pumps of a session come to rest. They run after each command until none of them has anything left
to do; from then on their turns change nothing.
-/

set_option autoImplicit false

namespace BeaconWatch

namespace Tracker

variable {tracker : Tracker} {id : PumpId}

/-- The pump has nothing to take and no reason to end. -/
def IsIdle (tracker : Tracker) (id : PumpId) : Prop :=
  ∀ lane, tracker.lane? id = some lane → lane.pump = .running →
    lane.channel.queue = [] ∧ lane.channel.senders ≠ 0 ∧ tracker.isAsked id = false

theorem poll_of_isIdle (idle : tracker.IsIdle id) (now : Timestamp) : tracker.poll id now = (.idle, tracker) := by
  cases here : tracker.lane? id with
  | none => exact poll_of_none here now
  | some lane =>
    rcases poll_cases here now with ⟨polled, -⟩ | ⟨-, running, why⟩ | ⟨sighting, rest, -, running, next⟩
    · exact polled
    · obtain ⟨-, held, unasked⟩ := idle lane here running
      rcases why with ⟨asked, -⟩ | ⟨-, dropped⟩
      · exact absurd (asked.symm.trans unasked) (by decide)
      · exact absurd dropped held
    · obtain ⟨empty, -⟩ := idle lane here running
      exact absurd (next.symm.trans empty) (by simp)

theorem IsIdle.poll (idle : tracker.IsIdle id) (other : PumpId) (now : Timestamp) :
    (tracker.poll other now).2.IsIdle id := by
  by_cases same : id = other
  next =>
    rw [← same, poll_of_isIdle idle]
    exact idle
  next =>
    intro lane here running
    rw [lane?_poll_of_ne same] at here
    rw [isAsked_poll]
    exact idle lane here running

end Tracker

namespace Session

variable {session : Session} {id : PumpId}

/-- Time has passed and nothing else. -/
structure Unmoved (session : Session) (turns : List Polled) (next : Session) : Prop where
  idle : ∀ turn ∈ turns, turn = .idle
  tracker : next.tracker = session.tracker
  held : next.isHeld = session.isHeld

theorem Unmoved.none (session : Session) : session.Unmoved [] session :=
  ⟨by simp, rfl, rfl⟩

theorem Unmoved.append {middle next : Session} {turns later : List Polled} (first : session.Unmoved turns middle)
    (second : middle.Unmoved later next) : session.Unmoved (turns ++ later) next := by
  constructor
  · intro turn member
    rcases List.mem_append.mp member with early | late
    · exact first.idle turn early
    · exact second.idle turn late
  · exact second.tracker.trans first.tracker
  · exact second.held.trans first.held

theorem pollTimes_succ (count : Nat) : session.pollTimes id (count + 1) =
    ((session.poll id).1 :: ((session.poll id).2.pollTimes id count).1,
      ((session.poll id).2.pollTimes id count).2) := rfl

theorem tracker_poll : (session.poll id).2.tracker = (session.tracker.poll id session.clock.now).2 := rfl

theorem settlePumps_cons (rest : List PumpId) : session.settlePumps (id :: rest) =
    ((session.settlePump id).1 ++ ((session.settlePump id).2.settlePumps rest).1,
      ((session.settlePump id).2.settlePumps rest).2) := rfl

/-- What relates a session, some turns of its pumps and the session after them, if it is made up of single turns. -/
structure IsTurnwise (R : Session → List Polled → Session → Prop) : Prop where
  none : ∀ session, R session [] session
  append : ∀ {session middle next turns later}, R session turns middle → R middle later next →
    R session (turns ++ later) next
  poll : ∀ session id, R session [(session.poll id).1] (session.poll id).2
  recount : ∀ {session next turns}, R session turns next → R session turns { next with sends := 0 }

namespace IsTurnwise

variable {R : Session → List Polled → Session → Prop} (turnwise : IsTurnwise R)

include turnwise

theorem pollTimes (session : Session) (id : PumpId) (count : Nat) :
    R session (session.pollTimes id count).1 (session.pollTimes id count).2 := by
  induction count generalizing session with
  | zero => exact turnwise.none session
  | succ count ih =>
    rw [pollTimes_succ]
    exact turnwise.append (turnwise.poll session id) (ih _)

theorem settlePump (session : Session) (id : PumpId) :
    R session (session.settlePump id).1 (session.settlePump id).2 := by
  unfold Session.settlePump
  split
  · exact turnwise.none session
  · exact turnwise.pollTimes session id _

theorem settlePumps (session : Session) (ids : List PumpId) :
    R session (session.settlePumps ids).1 (session.settlePumps ids).2 := by
  induction ids generalizing session with
  | nil => exact turnwise.none session
  | cons id rest ih =>
    rw [settlePumps_cons]
    exact turnwise.append (turnwise.settlePump session id) (ih _)

theorem settle (session : Session) : R session session.settle.1 session.settle.2 :=
  turnwise.recount (turnwise.settlePumps session session.pumpIds)

end IsTurnwise

theorem isTurnwise_isIdle (id : PumpId) :
    IsTurnwise fun session _ next => session.tracker.IsIdle id → next.tracker.IsIdle id where
  none _ idle := idle
  append first second idle := second (first idle)
  poll session other idle := idle.poll other session.clock.now
  recount kept := kept

-- A turn that takes a sighting leaves fewer of them, and any other turn leaves the pump idle.
theorem isIdle_pollTimes {count : Nat} (enough : ∀ lane, session.tracker.lane? id = some lane →
    lane.pump = .running → lane.channel.queue.length < count) :
    (session.pollTimes id count).2.tracker.IsIdle id := by
  induction count generalizing session with
  | zero =>
    intro lane here running
    exact absurd (enough lane here running) (Nat.not_lt_zero _)
  | succ count ih =>
    cases here : session.tracker.lane? id with
    | none =>
      apply (isTurnwise_isIdle id).pollTimes
      intro lane there
      exact absurd (here.symm.trans there) (by simp)
    | some lane =>
      rcases Tracker.poll_cases here session.clock.now with ⟨-, still⟩ | ⟨polled, -⟩ | ⟨sighting, rest, polled, running, next⟩
      · apply (isTurnwise_isIdle id).pollTimes
        intro same there
        cases here.symm.trans there
        exact still
      · rw [pollTimes_succ]
        apply ih
        intro left there running
        rw [tracker_poll, polled, Tracker.lane?_setLane_self here] at there
        cases there
        cases running
      · rw [pollTimes_succ]
        apply ih
        intro left there runs
        rw [tracker_poll, polled, Tracker.lane?_taking here] at there
        have few := enough lane here running
        rw [next, List.length_cons] at few
        cases there
        split at runs
        case isTrue => cases runs
        case isFalse calm => 
          simp only [calm]
          exact Nat.lt_of_succ_lt_succ few

theorem isIdle_settlePump : (session.settlePump id).2.tracker.IsIdle id := by
  unfold settlePump
  split
  case h_1 absent =>
    intro lane there
    exact absurd (absent.symm.trans there) (by simp)
  case h_2 lane here =>
    apply isIdle_pollTimes
    intro same there _
    cases here.symm.trans there
    exact Nat.lt_succ_self _

theorem isIdle_settlePumps {ids : List PumpId} (member : id ∈ ids) :
    (session.settlePumps ids).2.tracker.IsIdle id := by
  induction ids generalizing session with
  | nil => cases member
  | cons first rest ih =>
    rw [settlePumps_cons]
    rcases List.mem_cons.mp member with rfl | later
    · exact (isTurnwise_isIdle id).settlePumps _ rest isIdle_settlePump
    · exact ih later

theorem mem_pumpIds {lane : Lane} (here : session.tracker.lane? id = some lane) : id ∈ session.pumpIds := by
  obtain ⟨generation, found, -⟩ := Tracker.lane?_eq_some_iff.mp here
  have inside := (List.getElem?_eq_some_iff.mp found).1
  obtain ⟨index, path⟩ := id
  cases path <;> simp [pumpIds, inside]

/-- No pump of the session has anything left to do. -/
def IsSettled (session : Session) : Prop :=
  ∀ id, session.tracker.IsIdle id

theorem isSettled_settle (session : Session) : session.settle.2.IsSettled := by
  intro id
  cases here : session.tracker.lane? id with
  | some lane => exact isIdle_settlePumps (mem_pumpIds here)
  | none =>
    apply (isTurnwise_isIdle id).settlePumps
    intro lane there
    exact absurd (here.symm.trans there) (by simp)

theorem isTurnwise_unmoved :
    IsTurnwise fun session turns next => session.IsSettled → session.Unmoved turns next where
  none session _ := .none session
  append := by
    intro session middle next turns later first second settled
    have unmoved := first settled
    exact unmoved.append (second (by rwa [IsSettled, unmoved.tracker]))
  poll := by
    intro session id settled
    have still : session.tracker.poll id session.clock.now = (.idle, session.tracker) :=
      Tracker.poll_of_isIdle (settled id) _
    exact ⟨by simp [poll, still], by simp [poll, still], rfl⟩
  recount := by
    intro session next turns unmoved settled
    exact ⟨(unmoved settled).idle, (unmoved settled).tracker, (unmoved settled).held⟩

theorem unmoved_settle (settled : session.IsSettled) : session.Unmoved session.settle.1 session.settle.2 :=
  isTurnwise_unmoved.settle session settled

end Session

end BeaconWatch
