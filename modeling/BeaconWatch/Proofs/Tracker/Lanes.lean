import BeaconWatch.Proofs.Channel
import BeaconWatch.Tracker.Basic

/-!
The lanes of a tracker by their pumps, and what a look of a pump, a turn of it and an offered sighting do to them.
-/

set_option autoImplicit false

namespace BeaconWatch

namespace Lane

def withQueue (lane : Lane) (queue : List Sighting) : Lane :=
  { lane with channel := { lane.channel with queue := queue } }

def dropSender (lane : Lane) : Lane :=
  { lane with channel := lane.channel.dropSender }

/-- What a look can show, and the lane that it leaves. -/
inductive Shows (asked : Bool) (lane : Lane) : Look → Lane → Prop
  | gone (ended : lane.pump ≠ .running) : Shows asked lane .idle lane
  | empty (running : lane.pump = .running) (first : lane.sawEmpty = false) (none : lane.channel.queue = [])
      (held : lane.channel.senders ≠ 0) : Shows asked lane .idle { lane with sawEmpty := true }
  | unasked (running : lane.pump = .running) (second : lane.sawEmpty = true) (calm : asked = false) :
      Shows asked lane .idle { lane with sawEmpty := false }
  | took {sighting : Sighting} {rest : List Sighting} (running : lane.pump = .running)
      (first : lane.sawEmpty = false) (next : lane.channel.queue = sighting :: rest) :
      Shows asked lane (.took sighting) (lane.withQueue rest)
  | asked (running : lane.pump = .running) (second : lane.sawEmpty = true) (asks : asked = true) :
      Shows asked lane .ended (lane.finish .stopped)
  | closed (running : lane.pump = .running) (first : lane.sawEmpty = false) (none : lane.channel.queue = [])
      (dropped : lane.channel.senders = 0) : Shows asked lane .ended (lane.finish .stopped)

theorem shows_look (lane : Lane) (asked : Bool) : lane.Shows asked (lane.look asked).1 (lane.look asked).2 := by
  obtain ⟨⟨capacity, queue, senders, hasReceiver⟩, pump, sawEmpty⟩ := lane
  cases pump with
  | stopped | failed => exact .gone (by simp)
  | running =>
    cases sawEmpty with
    | true =>
      cases asked with
      | true => exact .asked rfl rfl rfl
      | false => exact .unasked rfl rfl rfl
    | false =>
      cases queue with
      | cons sighting rest => exact .took rfl rfl rfl
      | nil =>
        by_cases none : senders = 0
        next =>
          subst none
          exact .closed rfl rfl rfl rfl
        next =>
          simp only [look, Channel.receive, if_neg none]
          exact .empty rfl rfl rfl none

theorem Shows.capacity_eq {asked : Bool} {lane left : Lane} {shown : Look} (shows : lane.Shows asked shown left) :
    left.channel.capacity = lane.channel.capacity := by
  cases shows <;> rfl

theorem Shows.senders_eq {asked : Bool} {lane left : Lane} {shown : Look} (shows : lane.Shows asked shown left) :
    left.channel.senders = lane.channel.senders := by
  cases shows <;> rfl

theorem Shows.of_idle {asked : Bool} {lane left : Lane} (shows : lane.Shows asked .idle left) :
    left.channel = lane.channel ∧ left.pump = lane.pump := by
  cases shows <;> exact ⟨rfl, rfl⟩

theorem Shows.of_took {asked : Bool} {lane left : Lane} {sighting : Sighting}
    (shows : lane.Shows asked (.took sighting) left) :
    lane.pump = .running ∧ ∃ rest, lane.channel.queue = sighting :: rest ∧ left = lane.withQueue rest := by
  cases shows with
  | took running _ next => exact ⟨running, _, next, rfl⟩

theorem Shows.of_ended {asked : Bool} {lane left : Lane} (shows : lane.Shows asked .ended left) :
    lane.pump = .running ∧ left = lane.finish .stopped := by
  cases shows with
  | asked running => exact ⟨running, rfl⟩
  | closed running => exact ⟨running, rfl⟩

/-- A pump may end when it is asked to and saw its channel empty, or when all senders are gone. -/
def MayEnd (lane : Lane) (asked : Bool) : Prop :=
  asked = true ∧ (lane.sawEmpty = true ∨ lane.channel.queue = []) ∨
    lane.channel.queue = [] ∧ lane.channel.senders = 0

def withRest (lane : Lane) (rest : List Sighting) : Lane :=
  { lane.withQueue rest with sawEmpty := false }

/-- What a turn can show: the pump is where it was, has ended, or has taken a sighting. -/
inductive Turns (asked : Bool) (lane : Lane) : Look → Lane → Prop
  | rests (still : lane.pump = .running → lane.channel.queue = [] ∧ lane.channel.senders ≠ 0 ∧ asked = false) :
      Turns asked lane .idle lane
  | ends (running : lane.pump = .running) (why : lane.MayEnd asked) : Turns asked lane .ended (lane.finish .stopped)
  | takes {sighting : Sighting} {rest : List Sighting} (running : lane.pump = .running)
      (next : lane.channel.queue = sighting :: rest) : Turns asked lane (.took sighting) (lane.withRest rest)

variable {asked : Bool} {lane first left : Lane} {shown : Look}

theorem with_sawEmpty {sawEmpty : Bool} (same : lane.sawEmpty = sawEmpty) (other : Bool) :
    { ({ lane with sawEmpty := other } : Lane) with sawEmpty := sawEmpty } = lane := by
  cases same
  rfl

theorem Shows.turns (shows : lane.Shows asked shown left) (moved : shown ≠ .idle) : lane.Turns asked shown left := by
  cases shows with
  | gone | empty | unasked => exact absurd rfl moved
  | @took sighting rest running first next =>
    have same : lane.withRest rest = lane.withQueue rest := by rw [withRest, ← first]; rfl
    rw [← same]
    exact .takes running next
  | asked running second asks => exact .ends running (.inl ⟨asks, .inl second⟩)
  | closed running _ none dropped => exact .ends running (.inr ⟨none, dropped⟩)

theorem Shows.turns_of_idle (shows : lane.Shows asked .idle first) (again : first.Shows asked shown left) :
    lane.Turns asked shown left := by
  cases shows with
  | gone ended =>
    cases again with
    | gone => exact .rests fun running => absurd running ended
    | empty running | unasked running | took running | asked running | closed running => exact absurd running ended
  | empty running saw none held =>
    cases again with
    | gone ended => exact absurd running ended
    | empty _ twice | took _ twice | closed _ twice => cases twice
    | unasked _ _ calm =>
      rw [with_sawEmpty saw]
      exact .rests fun _ => ⟨none, held, calm⟩
    | asked _ _ asks => exact .ends running (.inl ⟨asks, .inr none⟩)
  | unasked running saw calm =>
    cases again with
    | gone ended => exact absurd running ended
    | unasked _ twice | asked _ twice => cases twice
    | empty _ _ none held =>
      rw [with_sawEmpty saw]
      exact .rests fun _ => ⟨none, held, calm⟩
    | took _ _ next => exact .takes running next
    | closed _ _ none dropped => exact .ends running (.inr ⟨none, dropped⟩)

end Lane

namespace Generation

variable (generation : Generation)

theorem lane_setLane_of_ne {path other : IntakePath} (different : other ≠ path) (lane : Lane) :
    (generation.setLane path lane).lane other = generation.lane other := by
  cases path <;> cases other <;> first | rfl | exact absurd rfl different

theorem setLane_lane (path : IntakePath) : generation.setLane path (generation.lane path) = generation := by
  cases path <;> rfl

@[simp] theorem token_setLane (path : IntakePath) (lane : Lane) :
    (generation.setLane path lane).token = generation.token := by
  cases path <;> rfl

end Generation

namespace Tracker

variable {tracker : Tracker} {id : PumpId} {lane : Lane}

theorem lane?_eq_some_iff :
    tracker.lane? id = some lane ↔
      ∃ generation, tracker.generations[id.generation]? = some generation ∧ generation.lane id.path = lane :=
  Option.map_eq_some_iff

theorem lane?_setLane_self (here : tracker.lane? id = some lane) (next : Lane) :
    (tracker.setLane id next).lane? id = some next := by
  obtain ⟨generation, found, -⟩ := lane?_eq_some_iff.mp here
  simp [lane?, setLane, modifyGeneration, found]

theorem lane?_setLane_of_ne {other : PumpId} (different : other ≠ id) (next : Lane) :
    (tracker.setLane id next).lane? other = tracker.lane? other := by
  simp only [lane?, setLane, modifyGeneration, List.getElem?_modify]
  cases found : tracker.generations[other.generation]? with
  | none => rfl
  | some generation =>
    by_cases same : id.generation = other.generation
    next =>
      have path : other.path ≠ id.path := by
        intro samePath
        cases other
        cases id
        simp_all
      simp [same, Generation.lane_setLane_of_ne _ path]
    next => simp [same]

theorem setLane_self (here : tracker.lane? id = some lane) : tracker.setLane id lane = tracker := by
  obtain ⟨generation, found, rfl⟩ := lane?_eq_some_iff.mp here
  have unchanged : tracker.generations.modify id.generation
      (fun other => other.setLane id.path (generation.lane id.path)) = tracker.generations := by
    apply List.ext_getElem?
    intro index
    rw [List.getElem?_modify]
    by_cases same : id.generation = index
    next =>
      subst same
      simp [found, Generation.setLane_lane]
    next => simp [same]
  rw [setLane, modifyGeneration, unchanged]

/-- Whether the token of the pump's generation is cancelled. -/
def isAsked (tracker : Tracker) (id : PumpId) : Bool :=
  tracker.generations[id.generation]?.any fun generation => tracker.isCancelled generation.token

@[simp] theorem isAsked_setLane (other : PumpId) (next : Lane) :
    (tracker.setLane other next).isAsked id = tracker.isAsked id := by
  simp only [isAsked, setLane, modifyGeneration, List.getElem?_modify]
  cases tracker.generations[id.generation]? with
  | none => rfl
  | some generation => by_cases same : other.generation = id.generation <;> simp [same, isCancelled]

theorem isAsked_eq {generation : Generation} (found : tracker.generations[id.generation]? = some generation) :
    tracker.isAsked id = tracker.isCancelled generation.token := by
  simp [isAsked, found]

def reaction (tracker : Tracker) (sighting : Sighting) (now : Timestamp) : Option Reaction :=
  tracker.callback.map fun call => call (tracker.registry.recordAt sighting now) sighting

/-- What a pump leaves when it has taken a sighting out of its lane. -/
def taking (tracker : Tracker) (id : PumpId) (left : Lane) (sighting : Sighting) (now : Timestamp) : Tracker :=
  { tracker.setLane id (if tracker.reaction sighting now = some .fails then left.finish .failed else left) with
    registry := tracker.registry.recordAt sighting now }

theorem lane?_taking (here : tracker.lane? id = some lane) (left : Lane) (sighting : Sighting) (now : Timestamp) :
    (tracker.taking id left sighting now).lane? id =
      some (if tracker.reaction sighting now = some .fails then left.finish .failed else left) :=
  lane?_setLane_self here _

theorem look_of_none (absent : tracker.lane? id = none) (now : Timestamp) :
    tracker.look id now = (.idle, tracker) := by
  have none : tracker.generations[id.generation]? = none := Option.map_eq_none_iff.mp absent
  rw [look, none]

/-- What a look of a pump shows in the tracker. -/
theorem look_eq (here : tracker.lane? id = some lane) (now : Timestamp) : tracker.look id now =
    match lane.look (tracker.isAsked id) with
    | (.idle, left) => (.idle, tracker.setLane id left)
    | (.ended, left) => (.ended, tracker.setLane id left)
    | (.took sighting, left) => (.took sighting (tracker.reaction sighting now), tracker.taking id left sighting now) := by
  obtain ⟨generation, found, rfl⟩ := lane?_eq_some_iff.mp here
  rw [isAsked_eq found, look, found]
  rfl

/-- The look of a pump does one of three things. -/
theorem look_cases (here : tracker.lane? id = some lane) (now : Timestamp) :
    (∃ left, lane.Shows (tracker.isAsked id) .idle left ∧ tracker.look id now = (.idle, tracker.setLane id left)) ∨
    (∃ left, lane.Shows (tracker.isAsked id) .ended left ∧ tracker.look id now = (.ended, tracker.setLane id left)) ∨
    ∃ sighting left, lane.Shows (tracker.isAsked id) (.took sighting) left ∧
      tracker.look id now = (.took sighting (tracker.reaction sighting now), tracker.taking id left sighting now) := by
  have shows := lane.shows_look (tracker.isAsked id)
  rw [look_eq here]
  generalize lane.look (tracker.isAsked id) = shown at shows ⊢
  rcases shown with ⟨_ | sighting | _, left⟩
  · exact .inl ⟨left, shows, rfl⟩
  · exact .inr (.inr ⟨sighting, left, shows, rfl⟩)
  · exact .inr (.inl ⟨left, shows, rfl⟩)

theorem isAsked_look (other : PumpId) (now : Timestamp) :
    (tracker.look other now).2.isAsked id = tracker.isAsked id := by
  cases here : tracker.lane? other with
  | none => rw [look_of_none here]
  | some lane =>
    rcases look_cases here now with ⟨left, -, looked⟩ | ⟨left, -, looked⟩ | ⟨sighting, left, -, looked⟩ <;> rw [looked]
    · exact isAsked_setLane ..
    · exact isAsked_setLane ..
    · exact isAsked_setLane ..

theorem lane?_look_of_ne {other : PumpId} (different : other ≠ id) (now : Timestamp) :
    (tracker.look id now).2.lane? other = tracker.lane? other := by
  cases here : tracker.lane? id with
  | none => rw [look_of_none here]
  | some lane =>
    rcases look_cases here now with ⟨left, -, looked⟩ | ⟨left, -, looked⟩ | ⟨sighting, left, -, looked⟩ <;> rw [looked]
    · exact lane?_setLane_of_ne different _
    · exact lane?_setLane_of_ne different _
    · exact lane?_setLane_of_ne different _

/-- A turn is a look, or two of them. -/
theorem poll_eq (tracker : Tracker) (id : PumpId) (now : Timestamp) :
    (tracker.poll id now = tracker.look id now ∧ (tracker.look id now).1 ≠ .idle) ∨
    (tracker.poll id now = (tracker.look id now).2.look id now ∧ (tracker.look id now).1 = .idle) := by
  rw [poll]
  rcases tracker.look id now with ⟨_ | _ | _, after⟩ <;> simp

theorem poll_of_none (absent : tracker.lane? id = none) (now : Timestamp) :
    tracker.poll id now = (.idle, tracker) := by
  simp only [poll, look_of_none absent]

theorem isAsked_poll (other : PumpId) (now : Timestamp) :
    (tracker.poll other now).2.isAsked id = tracker.isAsked id := by
  rcases tracker.poll_eq other now with ⟨once, -⟩ | ⟨twice, -⟩
  · rw [once, isAsked_look]
  · rw [twice, isAsked_look, isAsked_look]

theorem lane?_poll_of_ne {other : PumpId} (different : other ≠ id) (now : Timestamp) :
    (tracker.poll id now).2.lane? other = tracker.lane? other := by
  rcases tracker.poll_eq id now with ⟨once, -⟩ | ⟨twice, -⟩
  · rw [once, lane?_look_of_ne different]
  · rw [twice, lane?_look_of_ne different, lane?_look_of_ne different]

theorem setLane_setLane (first second : Lane) :
    (tracker.setLane id first).setLane id second = tracker.setLane id second := by
  have last : ((fun generation : Generation => generation.setLane id.path second) ∘
      fun generation : Generation => generation.setLane id.path first) =
        fun generation : Generation => generation.setLane id.path second := by
    funext generation
    cases id.path <;> rfl
  simp only [setLane, modifyGeneration, List.modify_modify_eq, last]

theorem taking_setLane (first left : Lane) (sighting : Sighting) (now : Timestamp) :
    (tracker.setLane id first).taking id left sighting now = tracker.taking id left sighting now := by
  rw [taking, setLane_setLane]
  rfl

/-- What a turn of a pump does in the tracker. -/
theorem poll_cases (here : tracker.lane? id = some lane) (now : Timestamp) :
    (tracker.poll id now = (.idle, tracker) ∧
      (lane.pump = .running →
        lane.channel.queue = [] ∧ lane.channel.senders ≠ 0 ∧ tracker.isAsked id = false)) ∨
    (tracker.poll id now = (.ended, tracker.setLane id (lane.finish .stopped)) ∧ lane.pump = .running ∧
      lane.MayEnd (tracker.isAsked id)) ∨
    ∃ sighting rest,
      tracker.poll id now =
        (.took sighting (tracker.reaction sighting now), tracker.taking id (lane.withRest rest) sighting now) ∧
      lane.pump = .running ∧ lane.channel.queue = sighting :: rest := by
  rcases look_cases here now with ⟨first, shows, looked⟩ | ⟨left, shows, looked⟩ | ⟨sighting, left, shows, looked⟩
  · have poll : tracker.poll id now = (tracker.setLane id first).look id now := by simp only [Tracker.poll, looked]
    rw [poll]
    rcases look_cases (lane?_setLane_self here first) now with
      ⟨left, next, again⟩ | ⟨left, next, again⟩ | ⟨sighting, left, next, again⟩ <;>
      rw [again] <;> rw [isAsked_setLane] at next <;> have turns := shows.turns_of_idle next
    · cases turns with
      | rests still => exact .inl ⟨by rw [setLane_setLane, setLane_self here], still⟩
    · cases turns with
      | ends running why => exact .inr (.inl ⟨by rw [setLane_setLane], running, why⟩)
    · cases turns with
      | takes running queued => exact .inr (.inr ⟨sighting, _, by rw [taking_setLane]; rfl, running, queued⟩)
  · have poll : tracker.poll id now = (.ended, tracker.setLane id left) := by simp only [Tracker.poll, looked]
    cases shows.turns (by simp) with
    | ends running why => exact .inr (.inl ⟨poll, running, why⟩)
  · have poll : tracker.poll id now =
        (.took sighting (tracker.reaction sighting now), tracker.taking id left sighting now) := by
      simp only [Tracker.poll, looked]
    cases shows.turns (by simp) with
    | takes running queued => exact .inr (.inr ⟨sighting, _, poll, running, queued⟩)

theorem poll_of_queue {sighting : Sighting} {rest : List Sighting} (here : tracker.lane? id = some lane)
    (running : lane.pump = .running) (waits : lane.channel.queue = sighting :: rest)
    (stays : tracker.isAsked id = true → lane.sawEmpty = false) (now : Timestamp) :
    tracker.poll id now =
      (.took sighting (tracker.reaction sighting now), tracker.taking id (lane.withRest rest) sighting now) := by
  rcases poll_cases here now with ⟨-, still⟩ | ⟨-, -, ⟨asks, saw | none⟩ | ⟨none, -⟩⟩ | ⟨first, others, polled, -, next⟩
  · exact absurd (waits.symm.trans (still running).1) (by simp)
  · exact absurd (saw.symm.trans (stays asks)) (by decide)
  · exact absurd (waits.symm.trans none) (by simp)
  · exact absurd (waits.symm.trans none) (by simp)
  · cases waits.symm.trans next
    exact polled

theorem offer_cases (here : tracker.lane? id = some lane) (how : Waiting) (sighting : Sighting) :
    (lane.channel.hasReceiver = true ∧ tracker.offer id how sighting =
      (.sent, tracker.setLane id (lane.withQueue (lane.channel.queue ++ [sighting])))) ∨
    ∃ result, result ≠ .sent ∧ tracker.offer id how sighting = (result, tracker) := by
  rcases lane.channel.send_cases how sighting with ⟨receiving, -, sent⟩ | ⟨result, refused, same⟩
  · exact .inl ⟨receiving, by simp only [offer, here, sent]; rfl⟩
  · refine .inr ⟨result, refused, ?_⟩
    simp only [offer, here, same]
    exact congrArg _ (setLane_self here)

theorem offer_of_closed (here : tracker.lane? id = some lane) (closed : lane.channel.hasReceiver = false)
    (how : Waiting) (sighting : Sighting) : tracker.offer id how sighting = (.closed, tracker) := by
  simp only [offer, here, Channel.send_of_closed closed]
  exact congrArg _ (setLane_self here)

end Tracker

end BeaconWatch
