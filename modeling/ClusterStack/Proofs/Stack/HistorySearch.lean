import ClusterStack.Proofs.Stack.FailedStatus
import ClusterStack.Proofs.Timestamp.Order
import Mathlib.Data.List.Chain
import Mathlib.Data.List.TakeWhile
/-!
# What the search for the first failure finds

The pages of a history are asked for one after another, each with the token of the one before it, and
their events are put together as they come. The search then looks at the events from the oldest one on,
each once, and stops at the first one with a status of failure. A page that cannot be read ends the
search before it has looked at any event.
-/
namespace ClusterStack.Stack.Handle

variable {σ : Type}

/-- Asked from the token on, the outside hands out these pages, each for the token of the one before it.
They are all that there are, or the page after them cannot be read. -/
inductive HandsOut (stack : Handle) (backend : Backend σ) :
    σ → Option Text → List EventPage → Option Failure → Prop
  | last {s : σ} {token : Option Text} {page : EventPage} :
      pageIn (backend s (stack.pageCall token)).1 = .ok page → next? page = none →
      HandsOut stack backend s token [page] none
  | unreadable {s : σ} {token : Option Text} {cause : Failure} :
      pageIn (backend s (stack.pageCall token)).1 = .error cause →
      HandsOut stack backend s token [] (some cause)
  | further {s : σ} {token : Option Text} {page : EventPage} {next : Text} {pages : List EventPage}
      {fault : Option Failure} :
      pageIn (backend s (stack.pageCall token)).1 = .ok page → next? page = some next →
      HandsOut stack backend (backend s (stack.pageCall token)).2 (some next) pages fault →
      HandsOut stack backend s token (page :: pages) fault

/-- The calls that ask for these pages and for the one after them, if they point to one. -/
def callsFor (stack : Handle) (token : Option Text) (pages : List EventPage) : List Invocation :=
  stack.pageCall token :: (pages.filterMap next?).map fun next => stack.pageCall (some next)

/-- The events of these pages, unless the page after them cannot be read. -/
def collected (stack : Handle) (pages : List EventPage) : Option Failure → Outcome (List Event)
  | none => .done (pages.flatMap EventPage.events)
  | some cause => .failed (Failure.ofCall "DescribeStackEvents" stack.name cause)

section

variable {stack : Handle} {backend : Backend σ} {s : σ} {token : Option Text}
  {history : List EventPage} {fault : Option Failure}

theorem callsFor_last {page : EventPage} (final : next? page = none) :
    stack.callsFor token [page] = [stack.pageCall token] := by
  rw [callsFor, List.filterMap_cons, final]
  rfl

theorem callsFor_cons {page : EventPage} {next : Text} {pages : List EventPage}
    (points : next? page = some next) :
    stack.callsFor token (page :: pages) = stack.pageCall token :: stack.callsFor (some next) pages := by
  rw [callsFor, List.filterMap_cons, points]
  rfl

/-- The history is read by one call for each page, and one more for a page that cannot be read. -/
theorem HandsOut.run_eventsFrom (served : stack.HandsOut backend s token history fault) {bound : Nat}
    (room : history.length < bound) :
    ∃ s', (stack.eventsFrom token bound).run backend s =
      ⟨stack.collected history fault, (stack.callsFor token history).map .invoked, s'⟩ := by
  induction served generalizing bound with
  | @last s token page read final =>
      obtain ⟨spare, rfl⟩ := Nat.exists_eq_add_of_lt room
      rw [run_eventsFrom_succ, read, callsFor_last final, collected, List.flatMap_singleton]
      simp only [final]
      exact ⟨(backend s (stack.pageCall token)).2, rfl⟩
  | @unreadable s token cause unread =>
      obtain ⟨spare, rfl⟩ := Nat.exists_eq_add_of_lt room
      rw [run_eventsFrom_succ, unread]
      exact ⟨(backend s (stack.pageCall token)).2, rfl⟩
  | @further s token page next pages fault read points _ ih =>
      obtain ⟨spare, rfl⟩ := Nat.exists_eq_add_of_lt room
      obtain ⟨s', others⟩ := ih (Nat.lt_of_succ_lt_succ room)
      rw [run_eventsFrom_succ, read, callsFor_cons points]
      simp only [points, others]
      refine ⟨s', ?_⟩
      cases fault with
      | none =>
          simp only [collected, Run.andThen, Run.afterAll, Run.after, List.append_nil, List.flatMap_cons,
            List.map_cons]
      | some cause => rfl

theorem HandsOut.calls_length (served : stack.HandsOut backend s token history fault) :
    (stack.callsFor token history).length = history.length + fault.toList.length := by
  induction served with
  | last _ final =>
      rw [callsFor_last final]
      rfl
  | unreadable _ => rfl
  | further _ points _ ih =>
      rw [callsFor_cons points, List.length_cons, List.length_cons, ih]
      omega

end

section

variable (stack : Handle) (statuses : List String)

/-- The events that a search in these looks at, from the first one on. -/
def examined (events : List Event) : List Event :=
  events.takeWhile (fun event => !cameTo statuses event) ++ (events.find? (cameTo statuses)).toList

def noteOf (event : Event) : Action := .logged .debug (searchNote event)

/-- How a search in these events ends. -/
def ending (events : List Event) : Outcome Event :=
  match events.find? (cameTo statuses) with
  | some event => .done event
  | none => .failed (stack.failure .noFailedEvent)

theorem run_firstWith (backend : Backend σ) (events : List Event) (s : σ) :
    (stack.firstWith statuses events).run backend s =
      ⟨stack.ending statuses events, (examined statuses events).map noteOf, s⟩ := by
  induction events with
  | nil => rfl
  | cons event rest ih =>
      rw [firstWith]
      cases failed : cameTo statuses event with
      | true =>
          rw [ending, examined, List.find?_cons_of_pos failed, List.takeWhile_cons, failed]
          rfl
      | false =>
          have missed : ¬ cameTo statuses event = true := Bool.eq_false_iff.mp failed
          have step : examined statuses (event :: rest) = event :: examined statuses rest := by
            rw [examined, List.find?_cons_of_neg missed, List.takeWhile_cons, failed]
            rfl
          rw [ending, List.find?_cons_of_neg missed, step]
          change Run.after _ ((stack.firstWith statuses rest).run backend s) = _
          rw [ih]
          rfl

/-- What a search in the events, the newest of which comes first, looks at one after another, and how it
ends. It finds the last of the events with one of the statuses, and looks at nothing that is newer. -/
inductive Finds (events : List Event) : List Event → Outcome Event → Prop
  | found {newer older : List Event} {event : Event} :
      events = newer ++ event :: older → cameTo statuses event = true →
      (∀ other ∈ older, cameTo statuses other = false) →
      Finds events (older.reverse ++ [event]) (.done event)
  | missed : (∀ event ∈ events, cameTo statuses event = false) →
      Finds events events.reverse (.failed (stack.failure .noFailedEvent))

variable {stack statuses}

theorem finds_reverse (events : List Event) :
    stack.Finds statuses events (examined statuses events.reverse)
      (stack.ending statuses events.reverse) := by
  have innocent (event : Event) : (!cameTo statuses event) = true ↔ cameTo statuses event = false :=
    iff_of_eq (Bool.not_eq_true' _)
  unfold ending
  cases search : events.reverse.find? (cameTo statuses) with
  | none =>
      have clean := List.find?_eq_none.mp search
      have all : examined statuses events.reverse = events.reverse := by
        rw [examined, search, List.takeWhile_eq_self_iff.mpr fun event member =>
          (innocent event).mpr (Bool.eq_false_iff.mpr (clean event member))]
        exact List.append_nil _
      rw [all]
      exact .missed fun event member =>
        Bool.eq_false_iff.mpr (clean event (List.mem_reverse.mpr member))
  | some event =>
      obtain ⟨failed, older, newer, shape, clean⟩ := List.find?_eq_some_iff_append.mp search
      have split : events = newer.reverse ++ event :: older.reverse := by
        rw [← List.reverse_reverse events, shape]
        simp
      have passed : examined statuses events.reverse = older.reverse.reverse ++ [event] := by
        rw [examined, search, shape, List.takeWhile_append_of_pos clean, List.takeWhile_cons, failed,
          List.reverse_reverse]
        exact congrArg (· ++ [event]) (List.append_nil older)
      rw [passed]
      exact .found split failed fun other member =>
        (innocent other).mp (clean other (List.mem_reverse.mp member))

theorem Finds.missed_iff {events looked : List Event} {outcome : Outcome Event}
    (finds : stack.Finds statuses events looked outcome) :
    outcome = .failed (stack.failure .noFailedEvent) ↔
      ∀ event ∈ events, cameTo statuses event = false := by
  cases finds with
  | @found newer older event shape failed _ =>
      refine iff_of_false nofun fun clean => ?_
      rw [clean event (shape ▸ List.mem_append_right newer List.mem_cons_self)] at failed
      cases failed
  | missed clean => exact iff_of_true rfl clean

/-- In a history that is in order, no event with one of the statuses is older than the one found. -/
theorem Finds.oldest {events looked : List Event} {event other : Event} {time time' : Timestamp}
    (finds : stack.Finds statuses events looked (.done event))
    (ordered : (events.filterMap Event.timestamp).IsChain Timestamp.NotOlder) (member : other ∈ events)
    (failed : cameTo statuses other = true) (dated : event.timestamp = some time)
    (dated' : other.timestamp = some time') : time'.NotOlder time := by
  cases finds with
  | @found newer older _ shape _ clean =>
      have sorted := List.pairwise_filterMap.mp ordered.pairwise
      rw [shape] at sorted member
      -- What comes before it is no older, and what comes after it has none of the statuses.
      rcases List.mem_append.mp member with before | after
      · exact (List.pairwise_append.mp sorted).2.2 other before event List.mem_cons_self _ dated' _ dated
      · rcases List.mem_cons.mp after with rfl | behind
        · rw [dated] at dated'
          cases dated'
          exact .refl time
        · rw [clean other behind] at failed
          cases failed

end

/-- The events that were gathered are looked at from the oldest one on. -/
theorem HandsOut.run_firstFailure {stack : Handle} {backend : Backend σ} {s : σ}
    {history : List EventPage} (served : stack.HandsOut backend s none history none) {bound : Nat}
    (room : history.length < bound) (statuses : List String) :
    let events := (history.flatMap EventPage.events).reverse
    ∃ s', (stack.firstFailure bound statuses).run backend s =
      ⟨stack.ending statuses events,
        (stack.callsFor none history).map .invoked ++ (examined statuses events).map noteOf, s'⟩ := by
  obtain ⟨s', gathered⟩ := served.run_eventsFrom room
  refine ⟨s', ?_⟩
  rw [firstFailure, Program.run_bind, gathered]
  simp only [collected, Run.andThen, run_firstWith, Run.afterAll]

/-- A search for the first failure makes one call for each page of the history, with the token of the
page before it. It looks at the events from the oldest one on, each once, up to the one that it finds:
the last of them with one of the statuses. Where the times are in order, none of the others with such a
status is older. A page that cannot be read ends the search with its call, before any event is looked
at. -/
theorem search_finds_oldest_failure (stack : Handle) (statuses : List String) (backend : Backend σ)
    (s : σ) {history : List EventPage} {fault : Option Failure}
    (served : stack.HandsOut backend s none history fault) {bound : Nat}
    (room : history.length < bound) :
    let run := (stack.firstFailure bound statuses).run backend s
    let calls := stack.callsFor none history
    let events := history.flatMap EventPage.events
    match fault with
    | none =>
      calls.length = history.length ∧
      (∃ looked, run.trace = calls.map .invoked ++ looked.map noteOf ∧
        stack.Finds statuses events looked run.outcome) ∧
      (run.outcome = .failed (stack.failure .noFailedEvent) ↔
        ∀ event ∈ events, cameTo statuses event = false) ∧
      ((events.filterMap Event.timestamp).IsChain Timestamp.NotOlder →
        ∀ event, run.outcome = .done event → ∀ other ∈ events, cameTo statuses other = true →
          ∀ time time', event.timestamp = some time → other.timestamp = some time' →
            time'.NotOlder time)
    | some cause =>
      calls.length = history.length + 1 ∧ run.trace = calls.map .invoked ∧
      run.outcome = .failed (Failure.ofCall "DescribeStackEvents" stack.name cause) := by
  intro run calls events
  cases fault with
  | some cause =>
      obtain ⟨s', gathered⟩ := served.run_eventsFrom room
      have searched : run = _ := Program.run_bind backend _ _ s
      rw [searched, gathered]
      exact ⟨served.calls_length, rfl, rfl⟩
  | none =>
      obtain ⟨s', searched⟩ := served.run_firstFailure room statuses
      have finds : stack.Finds statuses events (examined statuses events.reverse) run.outcome := by
        rw [show run = _ from searched]
        exact stack.finds_reverse events
      refine ⟨served.calls_length, ⟨_, congrArg Run.trace searched, finds⟩, finds.missed_iff, ?_⟩
      intro ordered event found other member failed time time' dated dated'
      rw [found] at finds
      exact finds.oldest ordered member failed dated dated'

def eventAt (second : Nat) (status : String) : Event :=
  ⟨none, none, some status, none, none, none, some ⟨1970, 1, 1, 0, 0, second, 0, some 0⟩⟩

def onceAndAgain : List EventPage := [
  ⟨[eventAt 2 "CREATE_FAILED"], some "p"⟩, ⟨[eventAt 1 "CREATE_FAILED"], none⟩]

/-- A creation failed, and the failure before it is on the next page. -/
def failedTwice : Aws.Script := [("describe-stack-events", [
  ⟨.exited 0 (bytes ("\x7b\"NextToken\":\"p\",\"StackEvents\":[\x7b\"Timestamp\":2," ++
    "\"ResourceStatus\":\"CREATE_FAILED\"\x7d]\x7d")) [], 1⟩,
  ⟨.exited 0 (bytes ("\x7b\"StackEvents\":[\x7b\"Timestamp\":1," ++
    "\"ResourceStatus\":\"CREATE_FAILED\"\x7d]\x7d")) [], 1⟩])]

theorem failedTwice_searched :
    let run := (demo.firstFailure 3 Wait.creation.failures).run Aws.scripted failedTwice
    demo.HandsOut Aws.scripted failedTwice none onceAndAgain none ∧ onceAndAgain.length < 3 ∧
    (∃ looked, run.trace = [.invoked (demo.pageCall none), .invoked (demo.pageCall (some "p"))] ++
        looked.map noteOf ∧
      demo.Finds Wait.creation.failures (onceAndAgain.flatMap EventPage.events) looked run.outcome) ∧
    ∀ event, run.outcome = .done event → ∀ time, event.timestamp = some time →
      Timestamp.NotOlder ⟨1970, 1, 1, 0, 0, 1, 0, some 0⟩ time := by
  intro run
  have served : demo.HandsOut Aws.scripted failedTwice none onceAndAgain none :=
    .further (by decide +kernel) rfl (.last (by decide +kernel) rfl)
  obtain ⟨-, looks, -, oldest⟩ := search_finds_oldest_failure demo Wait.creation.failures Aws.scripted
    failedTwice served (by decide : 2 < 3)
  refine ⟨served, by decide, looks, fun event found time dated => ?_⟩
  exact oldest (by decide +kernel) event found (eventAt 1 "CREATE_FAILED") (by decide +kernel)
    (by decide +kernel) time _ dated rfl

def statusOnly (status : String) : Event := ⟨none, none, some status, none, none, none, none⟩

/-- The newest event comes after the failure that is found. -/
def rolledBack : Aws.Script := [("describe-stack-events", [
  ⟨.exited 0 (bytes ("\x7b\"StackEvents\":[\x7b\"ResourceStatus\":\"ROLLBACK_COMPLETE\"\x7d," ++
    "\x7b\"ResourceStatus\":\"CREATE_FAILED\"\x7d]\x7d")) [], 1⟩])]

/-- An event that is newer than the failure that is found is not looked at. -/
theorem newerEvent_not_examined :
    let page : EventPage := ⟨[statusOnly "ROLLBACK_COMPLETE", statusOnly "CREATE_FAILED"], none⟩
    let run := (demo.firstFailure 2 Wait.creation.failures).run Aws.scripted rolledBack
    demo.HandsOut Aws.scripted rolledBack none [page] none ∧
    statusOnly "ROLLBACK_COMPLETE" ∈ page.events ∧
    noteOf (statusOnly "ROLLBACK_COMPLETE") ∉ run.trace := by
  intro page run
  have served : demo.HandsOut Aws.scripted rolledBack none [page] none :=
    .last (by decide +kernel) rfl
  refine ⟨served, List.mem_cons_self, fun noted => ?_⟩
  obtain ⟨s', searched⟩ := served.run_firstFailure (by decide : 1 < 2) Wait.creation.failures
  have looked : examined Wait.creation.failures ([page].flatMap EventPage.events).reverse =
      [statusOnly "CREATE_FAILED"] := by decide +kernel
  rw [show run.trace = _ from congrArg Run.trace searched, looked] at noted
  rcases List.mem_append.mp noted with called | noted
  · obtain ⟨call, -, same⟩ := List.mem_map.mp called
    cases same
  · have same := Action.logged.inj (List.mem_singleton.mp noted)
    exact absurd same.2 (by decide +kernel)

end ClusterStack.Stack.Handle
