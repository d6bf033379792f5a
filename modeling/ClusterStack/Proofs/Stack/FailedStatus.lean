import ClusterStack.Proofs.Rehearsals
import ClusterStack.Proofs.Stack.Waits
/-!
# Failed stacks

A wait that comes to a failed status searches the history for the first failure before it reports the
stack, only to note that event. The report depends on the search all the same: where a page is
unreadable for a reason that nothing is prepared for, such as times of which only some have an offset,
the failure of that page takes its place.
-/
namespace ClusterStack.Stack

section

variable {σ : Type} (operation : Operation) (stack : Handle) (pages : Nat) (backend : Backend σ)
  (s : σ)

/-- A wait for an operation that comes to a failed status, without its notes. The search for the first
failure has the last word. -/
theorem bare_run_await_failedStatus (i : Nat) (below : i < operation.wait.attempts)
    (earlier : ∀ j < i, (operation.wait.foundAt stack backend s j).IsPending) (status : Text)
    (decided : operation.wait.foundAt stack backend s i = .failedStatus status) :
    let search := operation.wait.searchAfter stack pages backend s i
    let run := ((operation.await stack pages).run backend s).bare
    run.trace = Wait.pendingSteps stack i ++
      [.invoked stack.eventsCall, .invoked stack.statusCall] ++ search.bare.trace ∧
    (Handle.PutAside search.outcome →
      run.outcome = operation.wait.ending stack (.failedStatus status)) ∧
    (¬ Handle.PutAside search.outcome → run.outcome = Handle.remainder search.outcome) := by
  intro search run
  have hrun : run = _ := bare_run_await operation stack pages backend s
  rw [operation.wait.bare_run_failedStatus stack pages backend s i below earlier status decided]
    at hrun
  by_cases aside : Handle.PutAside search.outcome
  · rw [aside.remainder] at hrun
    rw [hrun]
    refine ⟨?_, fun _ => operation.settled_stack _ _, fun kept => (kept aside).elim⟩
    simp only [Run.andThen, Run.afterAll, List.append_nil]
    rfl
  · cases houtcome : search.outcome with
    | done event =>
        rw [houtcome] at aside
        exact (aside trivial).elim
    | failed failure =>
        rw [houtcome] at aside hrun
        rw [Handle.remainder_failed aside] at hrun ⊢
        rw [hrun]
        exact ⟨rfl, fun h => (aside h).elim, fun _ => operation.settled_failed aside⟩
    | unfinished =>
        rw [houtcome] at aside hrun
        rw [hrun]
        refine ⟨rfl, fun h => (aside h).elim, fun _ => ?_⟩
        cases operation <;> rfl

/-- A wait for an operation that comes to a failed status reports this status exactly if no page that
the search for the first failure reads is unreadable for a reason that nothing is prepared for; the
reason of such a page takes the place of the report. Apart from notes, the search adds nothing but
readings of the history. -/
theorem failedStatus_reported_iff (i : Nat) (below : i < operation.wait.attempts)
    (earlier : ∀ j < i, (operation.wait.foundAt stack backend s j).IsPending) (status : Text)
    (decided : operation.wait.foundAt stack backend s i = .failedStatus status) :
    let run := (operation.await stack pages).run backend s
    let report : Outcome Unit :=
      .failed (.stack stack.name (.failedStatus operation.wait.success status.toString))
    let read := (stack.firstFailure pages operation.wait.failures).exchanges backend
      (Wait.beforeLook stack backend s (i + 1))
    (run.outcome ≠ .unfinished →
      (run.outcome = report ↔ ∀ e ∈ read, ¬ Handle.Unreadable e.reply) ∧
      (run.outcome ≠ report → ∃ e ∈ read, ∃ cause, Handle.pageIn e.reply = .error cause ∧
        cause.Unprepared ∧ run.outcome = .failed cause)) ∧
    ∃ search, run.bare.trace = Wait.pendingSteps stack i ++
        [.invoked stack.eventsCall, .invoked stack.statusCall] ++ search ∧
      ∀ action ∈ search, ∃ token, action = .invoked (stack.pageCall token) := by
  intro run report read
  obtain ⟨trace, reported, replaced⟩ :=
    bare_run_await_failedStatus operation stack pages backend s i below earlier status decided
  have play : (stack.firstFailure pages operation.wait.failures).Plays read
      (operation.wait.searchAfter stack pages backend s i).outcome := Program.plays_run backend _ _
  refine ⟨fun ended => ?_, _, trace, ?_⟩
  · rcases stack.plays_firstFailure play with
      cut | ⟨aside, readable⟩ | ⟨e, member, cause, unread, unprepared, failed⟩
    · have kept : ¬ Handle.PutAside
          (operation.wait.searchAfter stack pages backend s i).outcome := by
        rw [cut]
        exact id
      have unfinished := replaced kept
      rw [cut] at unfinished
      exact absurd unfinished ended
    · have asReport : run.outcome = report := reported aside
      exact ⟨iff_of_true asReport readable, fun h => absurd asReport h⟩
    · have kept : ¬ Handle.PutAside (.failed cause : Outcome Event) :=
        Handle.not_putAside unprepared
      rw [failed, Handle.remainder_failed kept] at replaced
      have asCause : run.outcome = .failed cause := replaced kept
      have other : run.outcome ≠ report := by
        intro h
        have same : cause = .stack _ _ := Outcome.failed.inj (asCause.symm.trans h)
        rw [same] at unprepared
        cases unprepared
      refine ⟨iff_of_false other fun h => h e member ⟨cause, unread, unprepared⟩, fun _ => ?_⟩
      exact ⟨e, member, cause, unread, unprepared, asCause⟩
  · intro action member
    obtain ⟨taken, noNote⟩ := List.mem_filter.mp member
    rcases (stack.does_firstFailure pages operation.wait.failures).trace backend _ action taken with
      note | reads
    · rw [note] at noNote
      cases noNote
    · exact reads

end

def demo : Handle := ⟨.usual ⟨none, none⟩, "demo"⟩

/-- The second look comes to a failed status, and the history is refused to the search. -/
def refusedHistory : Aws.Script := [
  ("describe-stack-events", [
    ⟨.exited 0 (bytes "\x7b\"StackEvents\":[\x7b\x7d]\x7d") [], 2⟩,
    ⟨.exited 254 [] (bytes "An error occurred (Throttling): Rate exceeded"), 1⟩]),
  ("describe-stacks", [
    ⟨.exited 0 (bytes "\x7b\"Stacks\":[\x7b\"StackStatus\":\"CREATE_IN_PROGRESS\"\x7d]\x7d") [], 1⟩,
    ⟨.exited 0 (bytes "\x7b\"Stacks\":[\x7b\"StackStatus\":\"CREATE_FAILED\"\x7d]\x7d") [], 1⟩])]

theorem refusedHistory_reported :
    ((Operation.creation.await demo 2).run Aws.scripted refusedHistory).outcome =
      .failed (.stack "demo" (.failedStatus "CREATE_COMPLETE" "CREATE_FAILED")) ∧
    ∀ e ∈ (demo.firstFailure 2 Wait.creation.failures).exchanges Aws.scripted
      (Wait.beforeLook demo Aws.scripted refusedHistory 2), ¬ Handle.Unreadable e.reply := by
  have first : Wait.creation.foundAt demo Aws.scripted refusedHistory 0 =
      .pending "CREATE_IN_PROGRESS" := by decide +kernel
  have earlier : ∀ j < 1, (Wait.creation.foundAt demo Aws.scripted refusedHistory j).IsPending := by
    intro j hj
    obtain rfl := Nat.lt_one_iff.mp hj
    rw [first]
    trivial
  have reported : ((Operation.creation.await demo 2).run Aws.scripted refusedHistory).outcome =
      .failed (.stack "demo" (.failedStatus "CREATE_COMPLETE" "CREATE_FAILED")) := by decide +kernel
  have settled := failedStatus_reported_iff .creation demo 2 Aws.scripted refusedHistory 1 (by decide)
    earlier "CREATE_FAILED" (by decide +kernel)
  refine ⟨reported, (settled.1 ?_).1.mp reported⟩
  rw [reported]
  exact nofun

/-- The first look comes to a failed status, and the history has times that cannot be compared. -/
def mixedTimes : Aws.Script := [
  ("describe-stack-events", [
    ⟨.exited 0 (bytes "\x7b\"StackEvents\":[\x7b\x7d]\x7d") [], 1⟩,
    ⟨.exited 0 (bytes ("\x7b\"StackEvents\":[\x7b\"Timestamp\":\"2024-01-01T00:00:02Z\"\x7d," ++
      "\x7b\"Timestamp\":\"2024-01-01T00:00:01\"\x7d]\x7d")) [], 1⟩]),
  ("describe-stacks", [
    ⟨.exited 0 (bytes "\x7b\"Stacks\":[\x7b\"StackStatus\":\"CREATE_FAILED\"\x7d]\x7d") [], 1⟩])]

theorem mixedTimes_not_reported :
    Wait.creation.foundAt demo Aws.scripted mixedTimes 0 = .failedStatus "CREATE_FAILED" ∧
    ((Operation.creation.await demo 2).run Aws.scripted mixedTimes).outcome =
      .failed (.data .timesNotOrdered) ∧
    ((Operation.creation.await demo 2).run Aws.scripted mixedTimes).outcome ≠
      .failed (.stack "demo" (.failedStatus "CREATE_COMPLETE" "CREATE_FAILED")) := by
  decide +kernel

end ClusterStack.Stack
