import ClusterStack.Proofs.Stack.Endings
/-!
# How waits end

A wait ends in its first look that is not pending, in the way that the finding of this look decides,
or after its last look. The waits for a creation, an update and a deletion differ in their terms, and
the one for a deletion takes the answer that the stack is missing for its completion.
-/
namespace ClusterStack.Stack

inductive Operation
  | creation
  | update
  | deletion

namespace Operation

def wait : Operation → Wait
  | .creation => .creation
  | .update => .update
  | .deletion => .deletion

def await (stack : Handle) (pages : Nat) : Operation → Program Unit
  | .creation => stack.awaitCreation pages
  | .update => stack.awaitUpdate pages
  | .deletion => stack.awaitDeletion pages

/-- The ending of a wait as the operation takes it: a deletion is complete when a remote call fails
because the stack is missing. -/
def settled : Operation → Outcome Unit → Outcome Unit
  | .deletion, .failed (.remote operation resource cause) =>
    if cause.isAbsenceOfStack then .done () else .failed (.remote operation resource cause)
  | _, outcome => outcome

end Operation

namespace Wait

variable {σ : Type} (wait : Wait) (stack : Handle) (pages : Nat) (backend : Backend σ)

/-- The ending of a wait that this finding decides. The last look that is pending decides for a
timeout. -/
def ending : Finding → Outcome Unit
  | .eventsUnknown failure => .failed (.remote "DescribeStackEvents" stack.name failure)
  | .noEvents => .failed (.stack stack.name .noEvents)
  | .resourceFailed event =>
    .failed (.stack stack.name (.resourceFailed wait.success (Text.shownIfGiven event.reason)))
  | .statusUnknown failure => .failed (.remote "DescribeStacks" stack.name failure)
  | .complete => .done ()
  | .failedStatus status =>
    .failed (.stack stack.name (.failedStatus wait.success status.toString))
  | .pending _ => .failed (.stack stack.name (.timedOut wait.success wait.attempts))

/-- What the look with this finding asks. The status is asked for only after the events, and the
history is searched only after a failed status. -/
def questions (search : List Action) : Finding → List Action
  | .eventsUnknown _ | .noEvents | .resourceFailed _ => [.invoked stack.eventsCall]
  | .failedStatus _ => .invoked stack.eventsCall :: .invoked stack.statusCall :: search
  | _ => [.invoked stack.eventsCall, .invoked stack.statusCall]

/-- The look with this finding ends the wait, for a reason that something is prepared for: a failure of
a call, or a failed status with a search that is put aside. -/
def Decides (search : Outcome Event) : Finding → Prop
  | .eventsUnknown failure | .statusUnknown failure => failure.isOfCall = true
  | .failedStatus _ => Handle.PutAside search
  | .pending _ => False
  | _ => True

end Wait

namespace Operation

theorem settled_stack (operation : Operation) (name : String) (fault : StackFault) :
    operation.settled (.failed (.stack name fault)) = .failed (.stack name fault) := by
  cases operation <;> rfl

theorem settled_failed (operation : Operation) {failure : Failure}
    (kept : ¬ Handle.PutAside (.failed failure : Outcome Event)) :
    operation.settled (.failed failure) = .failed failure := by
  cases operation with
  | deletion =>
      cases failure with
      | remote call resource cause => exact (kept trivial).elim
      | _ => rfl
  | _ => rfl

theorem settled_remote (call resource : String) (cause : Failure) :
    deletion.settled (.failed (.remote call resource cause)) =
      if cause.isAbsenceOfStack then .done () else .failed (.remote call resource cause) := rfl

/-- The failure of a call that says that the stack is gone completes a deletion. -/
theorem settled_gone {cause : Failure} (gone : cause.isAbsenceOfStack = true)
    (call resource : String) :
    deletion.settled (.failed (Failure.ofCall call resource cause)) = .done () := by
  have ofCall : cause.isOfCall = true := by
    cases cause with
    | service error => rfl
    | _ => cases gone
  rw [Failure.ofCall_eq_remote _ _ ofCall, settled_remote, if_pos gone]

theorem settled_ofCall {operation : Operation} {cause : Failure}
    (known : cause.isOfCall = true ∨ cause.Unprepared)
    (there : operation = .deletion → cause.isAbsenceOfStack ≠ true) (call resource : String) :
    operation.settled (.failed (Failure.ofCall call resource cause)) =
      .failed (Failure.ofCall call resource cause) := by
  rcases known with ofCall | unprepared
  · cases operation with
    | deletion => rw [Failure.ofCall_eq_remote _ _ ofCall, settled_remote, if_neg (there rfl)]
    | _ => rfl
  · rw [unprepared.ofCall_eq]
    exact operation.settled_failed (Handle.not_putAside unprepared)

/-- A play of a wait leaves it undecided up to its last exchanges, and the operation settles what they
decide. -/
theorem plays_await {operation : Operation} {stack : Handle} {pages : Nat} {es : List Exchange}
    {outcome : Outcome Unit} (h : (operation.await stack pages).Plays es outcome) :
    ∃ during last ending, es = during ++ last ∧
      (∀ e ∈ during, operation.wait.Undecided stack e) ∧
      operation.wait.Closes stack last ending ∧ outcome = operation.settled ending := by
  cases operation with
  | creation =>
      obtain ⟨during, last, shape, undecided, closes⟩ := Wait.creation.plays_looks stack h
      exact ⟨during, last, outcome, shape, undecided, closes, by cases outcome <;> rfl⟩
  | update =>
      obtain ⟨during, last, shape, undecided, closes⟩ := Wait.update.plays_looks stack h
      exact ⟨during, last, outcome, shape, undecided, closes, by cases outcome <;> rfl⟩
  | deletion =>
      rcases Program.plays_recover.mp h with ⟨ran, hne⟩ | ⟨failure, first, rest, rfl, ran, instead⟩
      · obtain ⟨during, last, shape, undecided, closes⟩ := Wait.deletion.plays_looks stack ran
        refine ⟨during, last, outcome, shape, undecided, closes, ?_⟩
        cases outcome with
        | failed failure => exact absurd rfl (hne failure)
        | _ => rfl
      · have ended : rest = [] ∧ outcome = deletion.settled (.failed failure) := by
          cases failure with
          | remote call resource cause =>
              change Program.Plays (if cause.isAbsenceOfStack then _ else _) rest outcome at instead
              rw [settled_remote]
              by_cases missing : cause.isAbsenceOfStack = true
              · rw [if_pos missing] at instead ⊢
                exact instead
              · rw [if_neg missing] at instead ⊢
                exact instead
          | _ => exact instead
        obtain ⟨rfl, rfl⟩ := ended
        obtain ⟨during, last, rfl, undecided, closes⟩ := Wait.deletion.plays_looks stack ran
        rw [List.append_nil]
        exact ⟨during, last, _, rfl, undecided, closes, rfl⟩

end Operation

theorem bare_run_await (operation : Operation) (stack : Handle) (pages : Nat) {σ : Type}
    (backend : Backend σ) (s : σ) :
    ((operation.await stack pages).run backend s).bare =
      { ((operation.wait.run stack pages).run backend s).bare with
        outcome := operation.settled ((operation.wait.run stack pages).run backend s).bare.outcome } := by
  cases operation with
  | creation => rfl
  | update => rfl
  | deletion =>
      change ((stack.awaitDeletion pages).run backend s).bare = _
      unfold Handle.awaitDeletion
      rw [Program.run_recover]
      change _ = { ((Wait.deletion.run stack pages).run backend s).bare with
        outcome := Operation.deletion.settled
          ((Wait.deletion.run stack pages).run backend s).bare.outcome }
      generalize (Wait.deletion.run stack pages).run backend s = run
      obtain ⟨outcome, trace, state⟩ := run
      cases outcome with
      | done u => rfl
      | unfinished => rfl
      | failed failure =>
          cases failure with
          | remote call resource cause =>
              change Run.bare (Run.afterAll trace (Program.run backend
                (if cause.isAbsenceOfStack then _ else _) state)) = ⟨ite _ _ _, _, _⟩
              by_cases missing : cause.isAbsenceOfStack = true
              · rw [if_pos missing, if_pos missing]
                simp [Program.note, Program.run, Run.after, Run.afterAll, Run.bare, Action.isNote]
              · rw [if_neg missing, if_neg missing]
                simp [Program.run, Run.afterAll, Run.bare]
          | _ => simp [Run.orElse, Program.run, Run.afterAll, Run.bare, Operation.settled]

namespace Wait

variable {σ : Type} (wait : Wait) (stack : Handle) (pages : Nat) (backend : Backend σ)

theorem bare_run_from (s : σ) (i : Nat) (below : i < wait.attempts)
    (earlier : ∀ j < i, (wait.foundAt stack backend s j).IsPending) :
    ∃ attempt left, ((wait.run stack pages).run backend s).bare =
      ((wait.looks stack pages attempt (left + 1)).run backend
        (beforeLook stack backend s i)).bare.afterAll (pendingSteps stack i) := by
  obtain ⟨left, hleft⟩ := Nat.exists_eq_add_of_lt below
  refine ⟨0 + i, left, ?_⟩
  rw [← wait.bare_run_pending stack pages backend i 0 (left + 1) s earlier, ← Nat.add_assoc, ← hleft]
  rfl

theorem beforeLook_succ (s : σ) (i : Nat) :
    beforeLook stack backend s (i + 1) = afterStatus stack backend (beforeLook stack backend s i) := by
  induction i generalizing s with
  | zero => rfl
  | succ i ih => exact ih (afterStatus stack backend s)

def searchAfter (s : σ) (i : Nat) : Run σ Event :=
  (stack.firstFailure pages wait.failures).run backend (beforeLook stack backend s (i + 1))

/-- A wait that comes to a failed status is over with the failure of the stack, unless the search for
the first failure ends it before. -/
theorem bare_run_failedStatus (s : σ) (i : Nat) (below : i < wait.attempts)
    (earlier : ∀ j < i, (wait.foundAt stack backend s j).IsPending) (status : Text)
    (decided : wait.foundAt stack backend s i = .failedStatus status) :
    ((wait.run stack pages).run backend s).bare =
      (Run.andThen
        { (wait.searchAfter stack pages backend s i).bare with
          outcome := Handle.remainder (wait.searchAfter stack pages backend s i).outcome }
        fun _ s' => ⟨wait.ending stack (.failedStatus status), [], s'⟩).afterAll
        (pendingSteps stack i ++ [.invoked stack.eventsCall, .invoked stack.statusCall]) := by
  obtain ⟨attempt, left, hrun⟩ := wait.bare_run_from stack pages backend s i below earlier
  change wait.found stack backend (beforeLook stack backend s i) = _ at decided
  rw [hrun, bare_run_looks, decided, searchAfter, beforeLook_succ]
  simp only [Program.run_bind, Run.bare_andThen, Handle.bare_run_noteFirstFailure,
    Run.afterAll_afterAll]
  rfl

theorem bare_run_decided (s : σ) (i : Nat) (below : i < wait.attempts)
    (earlier : ∀ j < i, (wait.foundAt stack backend s j).IsPending)
    (decides : Decides (wait.searchAfter stack pages backend s i).outcome
      (wait.foundAt stack backend s i)) :
    ((wait.run stack pages).run backend s).bare.outcome =
        wait.ending stack (wait.foundAt stack backend s i) ∧
      ((wait.run stack pages).run backend s).bare.trace =
        pendingSteps stack i ++ questions stack (wait.searchAfter stack pages backend s i).bare.trace
          (wait.foundAt stack backend s i) := by
  obtain ⟨attempt, left, hrun⟩ := wait.bare_run_from stack pages backend s i below earlier
  rw [bare_run_looks] at hrun
  cases decided : wait.foundAt stack backend s i with
  | eventsUnknown failure =>
      rw [decided] at decides
      change wait.found stack backend (beforeLook stack backend s i) = _ at decided
      rw [hrun, decided]
      exact ⟨congrArg Outcome.failed (if_pos decides), rfl⟩
  | statusUnknown failure =>
      rw [decided] at decides
      change wait.found stack backend (beforeLook stack backend s i) = _ at decided
      rw [hrun, decided]
      exact ⟨congrArg Outcome.failed (if_pos decides), rfl⟩
  | failedStatus status =>
      rw [decided] at decides
      have aside := Handle.PutAside.remainder decides
      rw [wait.bare_run_failedStatus stack pages backend s i below earlier status decided, aside]
      refine ⟨rfl, ?_⟩
      simp only [Run.andThen, Run.afterAll, questions, List.append_assoc, List.append_nil]
      rfl
  | pending status =>
      rw [decided] at decides
      exact decides.elim
  | _ =>
      change wait.found stack backend (beforeLook stack backend s i) = _ at decided
      rw [hrun, decided]
      exact ⟨rfl, rfl⟩

end Wait

/-- A wait ends in its first look that is not pending, with the ending that the finding of this look
decides, after asking for nothing but what its looks ask for and the search for the first failure
reads; without such a look it times out. -/
theorem await_ends_in_first_decisive_look {σ : Type} (operation : Operation) (stack : Handle)
    (pages : Nat) (backend : Backend σ) (s : σ) :
    (operation.wait.success, operation.wait.failedResource, operation.wait.failures,
      operation.wait.attempts) = (match operation with
        | .creation => ("CREATE_COMPLETE", "CREATE_FAILED", ["CREATE_FAILED",
          "ROLLBACK_IN_PROGRESS", "ROLLBACK_COMPLETE", "UPDATE_ROLLBACK_FAILED"], 50)
        | .update => ("UPDATE_COMPLETE", "UPDATE_FAILED", ["UPDATE_ROLLBACK_COMPLETE",
          "UPDATE_ROLLBACK_FAILED"], 5)
        | .deletion => ("DELETE_COMPLETE", "DELETE_FAILED", ["DELETE_FAILED"], 25)) ∧
    let wait := operation.wait
    let found := wait.foundAt stack backend s
    let search := wait.searchAfter stack pages backend s
    let run := ((operation.await stack pages).run backend s).bare
    (∀ i < wait.attempts, (∀ j < i, (found j).IsPending) →
      Wait.Decides (search i).outcome (found i) →
      run.outcome = operation.settled (wait.ending stack (found i)) ∧
      run.trace = Wait.pendingSteps stack i ++
        Wait.questions stack (search i).bare.trace (found i)) ∧
    ((∀ i < wait.attempts, (found i).IsPending) →
      run.outcome = .failed (.stack stack.name (.timedOut wait.success wait.attempts)) ∧
      run.trace = Wait.pendingSteps stack wait.attempts) := by
  refine ⟨by cases operation <;> rfl, ?_, ?_⟩
  · intro i below earlier decides
    obtain ⟨outcome, trace⟩ :=
      operation.wait.bare_run_decided stack pages backend s i below earlier decides
    rw [bare_run_await]
    exact ⟨congrArg operation.settled outcome, trace⟩
  · intro pending
    have hrun := operation.wait.bare_run_pending stack pages backend operation.wait.attempts 0 0 s
      pending
    change ((operation.wait.run stack pages).run backend s).bare = _ at hrun
    rw [bare_run_await, hrun]
    exact ⟨operation.settled_stack _ _, List.append_nil _⟩

end ClusterStack.Stack
