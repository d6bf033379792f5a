import ClusterStack.Proofs.Rehearsals
import ClusterStack.Proofs.Stack.Calls
import ClusterStack.Proofs.Timestamp.Order
import Mathlib.Data.List.Chain
/-!
# Pages in order

The check of a page compares the times of neighbours, and events without a time do not count for it.
Where all the times of a page can be compared, the order goes from neighbours to any two events, so that
the check takes the pages on which no event is newer than one before it. The others are reported as
answers that cannot be used. Whoever takes the first event of a page for the newest one relies on this.
-/
namespace ClusterStack.Stack

def Event.isDated (event : Event) : Bool := event.timestamp.isSome

namespace EventPage

def misordered : ValueFault := .invalid ⟨title, [⟨[], .rule orderRule⟩]⟩

def Accepted (page : EventPage) : Prop := checkNewestFirst page.timestamps = .ok ()

def timeAt (events : List Event) (i : Nat) : Option Timestamp := events[i]?.bind Event.timestamp

/-- Of two events with a time, the one in front is not older. -/
def NewestFirst (events : List Event) : Prop :=
  ∀ i j newer older, i < j → timeAt events i = some newer → timeAt events j = some older →
    older.moment ≤ newer.moment

/-- The times of the events all have an offset, or none of them has one. -/
def Comparable (events : List Event) : Prop :=
  ∃ known : Bool, ∀ event ∈ events, ∀ time, event.timestamp = some time → time.offset.isSome = known

theorem newestFirst_iff_pairwise (events : List Event) :
    NewestFirst events ↔
      (events.filterMap Event.timestamp).Pairwise fun newer older => older.moment ≤ newer.moment := by
  rw [List.pairwise_filterMap, List.pairwise_iff_getElem]
  constructor
  · intro ordered i j hi hj before newer dated older dated'
    exact ordered i j newer older before (by rw [timeAt, List.getElem?_eq_getElem hi]; exact dated)
      (by rw [timeAt, List.getElem?_eq_getElem hj]; exact dated')
  · intro ordered i j newer older before dated dated'
    obtain ⟨first, found, dated⟩ := Option.bind_eq_some_iff.mp dated
    obtain ⟨second, found', dated'⟩ := Option.bind_eq_some_iff.mp dated'
    obtain ⟨hi, rfl⟩ := List.getElem?_eq_some_iff.mp found
    obtain ⟨hj, rfl⟩ := List.getElem?_eq_some_iff.mp found'
    exact ordered i j hi hj before newer dated older dated'

theorem comparable_iff_pairwise (events : List Event) :
    Comparable events ↔
      (events.filterMap Event.timestamp).Pairwise fun s t => s.offset.isSome = t.offset.isSome := by
  have dated : Comparable events ↔
      ∃ known, ∀ time ∈ events.filterMap Event.timestamp, time.offset.isSome = known := by
    simp only [Comparable, List.mem_filterMap, forall_exists_index, and_imp]
    exact exists_congr fun known =>
      ⟨fun h time event member => h event member time, fun h event member time => h time event member⟩
  rw [dated]
  cases events.filterMap Event.timestamp with
  | nil => exact iff_of_true ⟨true, nofun⟩ .nil
  | cons first rest =>
      constructor
      · rintro ⟨known, offsets⟩
        exact List.pairwise_of_forall_mem_list fun s hs t ht =>
          (offsets s hs).trans (offsets t ht).symm
      · intro same
        refine ⟨first.offset.isSome, List.forall_mem_cons.mpr ⟨rfl, fun time member => ?_⟩⟩
        exact ((List.pairwise_cons.mp same).1 time member).symm

theorem checkNewestFirst_eq_ok_iff (times : List Timestamp) :
    checkNewestFirst times = .ok () ↔ times.IsChain Timestamp.NotOlder := by
  induction times with
  | nil => exact iff_of_true rfl .nil
  | cons newer rest ih =>
      cases rest with
      | nil => exact iff_of_true rfl (.singleton newer)
      | cons older rest =>
          rw [List.isChain_cons_cons, ← ih, checkNewestFirst, Timestamp.NotOlder]
          cases newer.before? older with
          | none => simp
          | some older => cases older <;> simp

/-- The only fault of times that can be compared is their order. -/
theorem checkNewestFirst_error_of_comparable {times : List Timestamp}
    (comparable : times.Pairwise fun s t => s.offset.isSome = t.offset.isSome) {failure : Failure}
    (h : checkNewestFirst times = .error failure) : failure = .value misordered := by
  induction times with
  | nil => cases h
  | cons newer rest ih =>
      cases rest with
      | nil => cases h
      | cons older rest =>
          obtain ⟨same, others⟩ := List.pairwise_cons.mp comparable
          rw [checkNewestFirst, Timestamp.before?_of_comparable (same older List.mem_cons_self)] at h
          cases before : decide (newer.moment < older.moment) with
          | true =>
              rw [before] at h
              cases h
              rfl
          | false =>
              rw [before] at h
              exact ih others h

variable {page : EventPage}

theorem Accepted.pairwise (accepted : page.Accepted) : page.timestamps.Pairwise Timestamp.NotOlder :=
  ((checkNewestFirst_eq_ok_iff _).mp accepted).pairwise

/-- The neighbours of a page are in order if and only if all of its events are. -/
theorem accepted_iff : page.Accepted ↔ Comparable page.events ∧ NewestFirst page.events := by
  rw [comparable_iff_pairwise, newestFirst_iff_pairwise, ← List.pairwise_and_iff, Accepted,
    checkNewestFirst_eq_ok_iff, List.isChain_iff_pairwise]
  exact List.Pairwise.iff fun _ _ => Timestamp.notOlder_iff_moment

theorem checkNewestFirst_of_not_newestFirst (comparable : Comparable page.events)
    (disordered : ¬ NewestFirst page.events) :
    checkNewestFirst page.timestamps = .error (.value misordered) := by
  cases checked : checkNewestFirst page.timestamps with
  | ok u => exact absurd (accepted_iff.mp checked).2 disordered
  | error failure =>
      have offsets := (comparable_iff_pairwise page.events).mp comparable
      exact congrArg _ (checkNewestFirst_error_of_comparable offsets checked)

theorem Accepted.newest_notOlder (accepted : page.Accepted) {newest other : Event}
    {time time' : Timestamp} (first : page.newest? = some newest)
    (dated : newest.timestamp = some time) (member : other ∈ page.events)
    (dated' : other.timestamp = some time') : time.NotOlder time' := by
  obtain ⟨rest, shape⟩ := List.head?_eq_some_iff.mp first
  have ordered := List.pairwise_filterMap.mp accepted.pairwise
  rw [shape] at ordered member
  rcases List.mem_cons.mp member with rfl | behind
  · rw [dated] at dated'
    cases dated'
    exact .refl time
  · exact (List.pairwise_cons.mp ordered).1 other behind time dated time' dated'

theorem timestamps_eq_of_dated {page' : EventPage}
    (same : page.events.filter Event.isDated = page'.events.filter Event.isDated) :
    page.timestamps = page'.timestamps := by
  have dated (events : List Event) :
      (events.filter Event.isDated).filterMap Event.timestamp = events.filterMap Event.timestamp := by
    rw [List.filterMap_filter]
    refine congrArg (List.filterMap · events) (funext fun event => ?_)
    unfold Event.isDated
    cases event.timestamp <;> rfl
  unfold timestamps
  rw [← dated page.events, same, dated]

theorem ofJson_of_valid {data : Json} (shaped : check data = .valid page) :
    ofJson data = (checkNewestFirst page.timestamps).map fun _ => page := by
  unfold ofJson readAs
  rw [shaped]
  change (checkNewestFirst page.timestamps).bind _ = _
  cases checkNewestFirst page.timestamps <;> rfl

theorem accepted_of_ofJson {data : Json} (read : ofJson data = .ok page) : page.Accepted := by
  obtain ⟨other, -, checked⟩ := ok_of_bind read
  obtain ⟨u, accepted, same⟩ := ok_of_bind checked
  cases same
  exact accepted

end EventPage

namespace Service

variable {answer : List (Text × Json)} {page : EventPage}

theorem readPage_of_accepted (shaped : EventPage.check (.obj answer) = .valid page)
    (accepted : page.Accepted) : readPage answer = .ok page := by
  unfold readPage
  rw [EventPage.ofJson_of_valid shaped, accepted]
  rfl

theorem readPage_of_misordered (shaped : EventPage.check (.obj answer) = .valid page)
    (misordered : EventPage.checkNewestFirst page.timestamps = .error (.value EventPage.misordered)) :
    readPage answer = .error
      (.service (.invalidResponse "describe-stack-events" EventPage.misordered.message)) := by
  unfold readPage
  rw [EventPage.ofJson_of_valid shaped, misordered]
  rfl

theorem accepted_of_readPage (read : readPage answer = .ok page) : page.Accepted := by
  unfold readPage at read
  split at read
  · cases read
  · exact EventPage.accepted_of_ofJson read

end Service

namespace Handle

variable {σ : Type}

/-- A page whose times can be compared is accepted if and only if none of its events is newer than one
before it, whatever lies between the two. A page that is not accepted is an answer that cannot be used.
No event of an accepted page is newer than the first one, and events without a time do not count. -/
theorem pages_accepted_iff_newest_first (stack : Handle) (token : Option Text) (backend : Backend σ)
    (s : σ) :
    let reply := (backend s (stack.pageCall token)).1
    let outcome := ((stack.service.events stack.name token).run backend s).outcome
    (∀ page : EventPage, EventPage.Comparable page.events →
      (page.Accepted ↔ EventPage.NewestFirst page.events)) ∧
    (∀ answer page, Aws.readReply "describe-stack-events" reply = .ok answer →
      EventPage.check (.obj answer) = .valid page → EventPage.Comparable page.events →
      (EventPage.NewestFirst page.events → outcome = .done page) ∧
      (¬ EventPage.NewestFirst page.events → outcome = .failed
        (.service ⟨"InvalidResponse", EventPage.misordered.message, "describe-stack-events", none⟩))) ∧
    (∀ page, outcome = .done page → page.Accepted) ∧
    (∀ page : EventPage, page.Accepted →
      ∀ newest time, page.newest? = some newest → newest.timestamp = some time →
        ∀ other ∈ page.events, ∀ time', other.timestamp = some time' →
          time.NotOlder time' ∧ time'.moment ≤ time.moment) ∧
    ∀ page page' : EventPage,
      page.events.filter Event.isDated = page'.events.filter Event.isDated →
      (page.Accepted ↔ page'.Accepted) := by
  intro reply outcome
  have ended : outcome = .ofExcept (pageIn reply) :=
    congrArg Run.outcome (Program.run_request backend (stack.pageCall token) pageIn s)
  refine ⟨fun page comparable => ?_, fun answer page answered shaped comparable => ?_,
    fun page done => ?_, fun page accepted newest time first dated other member time' dated' => ?_,
    fun page page' same => ?_⟩
  · exact EventPage.accepted_iff.trans (and_iff_right comparable)
  · have read : pageIn reply = Service.readPage answer := by
      rw [pageIn, answered]
      rfl
    rw [ended, read]
    refine ⟨fun ordered => ?_, fun disordered => ?_⟩
    · rw [Service.readPage_of_accepted shaped (EventPage.accepted_iff.mpr ⟨comparable, ordered⟩)]
      rfl
    · rw [Service.readPage_of_misordered shaped
        (EventPage.checkNewestFirst_of_not_newestFirst comparable disordered)]
      rfl
  · rw [ended] at done
    obtain ⟨answer, -, read⟩ := ok_of_bind (Outcome.ofExcept_eq_done done)
    exact Service.accepted_of_readPage read
  · have newer := accepted.newest_notOlder first dated member dated'
    exact ⟨newer, (Timestamp.notOlder_iff_moment.mp newer).2⟩
  · rw [EventPage.Accepted, EventPage.Accepted, EventPage.timestamps_eq_of_dated same]

def clock (hour minute : Nat) (offset : Int) : Timestamp := ⟨2024, 1, 1, hour, minute, 0, 0, some offset⟩

def eventOf (timestamp : Option Timestamp) : Event := ⟨none, none, none, none, none, none, timestamp⟩

/-- The clock of the second time shows more than that of the first, but it stands two hours east. -/
def acrossOffsets : List Event :=
  [eventOf (some (clock 10 0 0)), eventOf none, eventOf (some (clock 11 30 120))]

def acrossOffsetsAnswer : Json := .obj [("StackEvents", .arr [
  .obj [("Timestamp", .str "2024-01-01T10:00:00Z")], .obj [],
  .obj [("Timestamp", .str "2024-01-01T11:30:00+02:00")]])]

theorem acrossOffsets_accepted :
    let stack : Handle := ⟨.usual ⟨none, none⟩, "demo"⟩
    let script : Aws.Script := [("describe-stack-events", [.answering acrossOffsetsAnswer 1])]
    ((stack.service.events stack.name none).run Aws.scripted script).outcome =
      .done ⟨acrossOffsets, none⟩ ∧
    EventPage.Comparable acrossOffsets ∧ EventPage.NewestFirst acrossOffsets ∧
    ∀ other ∈ acrossOffsets, ∀ time, other.timestamp = some time →
      (clock 10 0 0).NotOlder time ∧ time.moment ≤ (clock 10 0 0).moment := by
  intro stack script
  obtain ⟨ordered, -, taken, newest, -⟩ :=
    pages_accepted_iff_newest_first stack none Aws.scripted script
  have ended : ((stack.service.events stack.name none).run Aws.scripted script).outcome =
      .done ⟨acrossOffsets, none⟩ := by decide +kernel
  have comparable : EventPage.Comparable acrossOffsets :=
    (EventPage.comparable_iff_pairwise _).mpr (by decide)
  have accepted := taken _ ended
  exact ⟨ended, comparable, (ordered _ comparable).mp accepted, newest _ accepted _ _ rfl rfl⟩

end Handle

end ClusterStack.Stack
