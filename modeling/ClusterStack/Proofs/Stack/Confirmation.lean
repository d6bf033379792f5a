import ClusterStack.Proofs.Changes
import ClusterStack.Proofs.Stack.Endings
/-!
# What a finished wait has seen

Whoever goes on after a wait relies on the last exchange of it. All exchanges before that one leave the
wait undecided, so nothing but the last one can have told that the operation is complete. A deletion is
also confirmed by a call that fails because the stack is missing.
-/
namespace ClusterStack.Stack

variable (wait : Wait) (stack : Handle)

/-- A call of a look at the stack fails for this reason. -/
inductive Handle.FailsFor (cause : Failure) : Exchange → Prop
  | events {reply : Reply} : Handle.pageIn reply = .error cause →
      FailsFor cause ⟨stack.eventsCall, reply⟩
  | status {reply : Reply} : stack.statusIn reply = .error cause →
      FailsFor cause ⟨stack.statusCall, reply⟩

def Stops : Outcome Unit → Prop
  | .done _ | .failed (.remote _ _ _) => False
  | _ => True

/-- The last exchanges of a wait, with its ending. -/
inductive Wait.Ends : List Exchange → Outcome Unit → Prop
  | complete {reply : Reply} : stack.statusIn reply = .ok (wait.success : Text) →
      Ends [⟨stack.statusCall, reply⟩] (.done ())
  | unknown {e : Exchange} {cause : Failure} (operation : String) : stack.FailsFor cause e →
      Ends [e] (.failed (Failure.ofCall operation stack.name cause))
  | stopped (es : List Exchange) {outcome : Outcome Unit} : Stops outcome → Ends es outcome

namespace Wait

variable {es : List Exchange}

theorem report_stops (status : Text) (reading : Outcome (List Event)) :
    Stops (wait.report stack status (Handle.remainder reading)) := by
  cases reading with
  | failed failure => cases failure <;> trivial
  | _ => trivial

theorem Closes.ends {outcome : Outcome Unit} (h : wait.Closes stack es outcome) :
    wait.Ends stack es outcome := by
  cases h with
  | eventsUnknown hr => exact .unknown "DescribeStackEvents" (.events hr)
  | statusUnknown hr => exact .unknown "DescribeStacks" (.status hr)
  | complete hr => exact .complete hr
  | failedStatus => exact .stopped _ (wait.report_stops stack _ _)
  | _ => exact .stopped _ trivial

theorem plays_run_done {pages : Nat} (h : (wait.run stack pages).Plays es (.done ())) :
    ∃ during reply, es = during ++ [⟨stack.statusCall, reply⟩] ∧
      (∀ e ∈ during, wait.Undecided stack e) ∧ stack.statusIn reply = .ok (wait.success : Text) := by
  obtain ⟨during, last, rfl, undecided, closes⟩ := wait.plays_looks stack h
  cases closes.ends with
  | complete hr => exact ⟨during, _, rfl, undecided, hr⟩
  | stopped _ stops => exact stops.elim

/-- The exchanges of looks, each with a reply about the newest event and one about the status. -/
def polled (polls : List (Reply × Reply)) : List Exchange :=
  polls.flatMap fun poll => [⟨stack.eventsCall, poll.1⟩, ⟨stack.statusCall, poll.2⟩]

/-- A wait is done after a number of undecided looks that leaves room for the one that tells of
success. -/
theorem plays_looks_done {pages attempt left : Nat}
    (h : (wait.looks stack pages attempt left).Plays es (.done ())) :
    ∃ earlier newest described, es = polled stack (earlier ++ [(newest, described)]) ∧
      earlier.length < left ∧
      (∀ poll ∈ earlier, wait.Unfailed poll.1 ∧ wait.Pending stack poll.2) ∧
      wait.Unfailed newest ∧ stack.statusIn described = .ok (wait.success : Text) := by
  induction left generalizing attempt es with
  | zero => exact nomatch h.2
  | succ left ih =>
      rcases wait.plays_look stack h with
        ⟨-, failure, no⟩ | ⟨newest, rest, rfl, unfailed, closes | ⟨described, others, rfl, pending, h⟩⟩
      · cases no
      · have ends := closes.ends
        generalize ending : Outcome.done () = outcome at ends
        cases ends with
        | complete read => exact ⟨[], newest, _, rfl, Nat.zero_lt_succ left, nofun, unfailed, read⟩
        | unknown => cases ending
        | stopped _ stops =>
            rw [← ending] at stops
            exact stops.elim
      · obtain ⟨earlier, last, complete, rfl, room, undecided, unfailed', read⟩ := ih h
        refine ⟨(newest, described) :: earlier, last, complete, rfl, Nat.succ_lt_succ room, ?_,
          unfailed', read⟩
        exact List.forall_mem_cons.mpr ⟨⟨unfailed, pending⟩, undecided⟩

end Wait

namespace Handle

theorem FailsFor.ofCall_eq_remote {cause : Failure} {e : Exchange} (h : stack.FailsFor cause e)
    {operation resource operation' resource' : String} {cause' : Failure}
    (remote : Failure.ofCall operation resource cause = .remote operation' resource' cause') :
    cause = cause' := by
  have known : cause.isOfCall = true ∨ cause.Unprepared := by
    cases h with
    | events hr => exact pageIn_error hr
    | status hr => exact stack.statusIn_error hr
  rcases known with call | unprepared
  · rw [Failure.ofCall_eq_remote operation resource call] at remote
    exact (Failure.remote.inj remote).2.2
  · rw [unprepared.ofCall_eq operation resource] at remote
    rw [remote] at unprepared
    cases unprepared

/-- The exchange tells that the stack is deleted, or that it does not exist. -/
inductive Confirms : Exchange → Prop
  | deleted {reply : Reply} : stack.statusIn reply = .ok "DELETE_COMPLETE" →
      Confirms ⟨stack.statusCall, reply⟩
  | missing {e : Exchange} {cause : Failure} : stack.FailsFor cause e →
      cause.isAbsenceOfStack = true → Confirms e

theorem plays_awaitDeletion_done {pages : Nat} {es : List Exchange}
    (h : (stack.awaitDeletion pages).Plays es (.done ())) :
    ∃ during confirming, es = during ++ [confirming] ∧
      (∀ e ∈ during, Wait.deletion.Undecided stack e) ∧ stack.Confirms confirming := by
  rcases Program.plays_recover.mp h with ⟨ran, -⟩ | ⟨failure, first, rest, rfl, ran, instead⟩
  · obtain ⟨during, reply, rfl, undecided, hr⟩ := Wait.deletion.plays_run_done stack ran
    exact ⟨during, _, rfl, undecided, .deleted hr⟩
  · cases failure with
    | remote operation resource cause =>
        change Program.Plays (if cause.isAbsenceOfStack then _ else _) rest (.done ()) at instead
        by_cases missing : cause.isAbsenceOfStack = true
        · rw [if_pos missing] at instead
          obtain ⟨rfl, -⟩ := instead
          obtain ⟨during, last, rfl, undecided, closes⟩ := Wait.deletion.plays_looks stack ran
          have ends := closes.ends
          rw [List.append_nil]
          generalize ending : Outcome.failed (Failure.remote operation resource cause) = outcome
            at ends
          cases ends with
          | complete hr => cases ending
          | unknown call fails =>
              have same := fails.ofCall_eq_remote stack (Outcome.failed.inj ending).symm
              rw [← same] at missing
              exact ⟨during, _, rfl, undecided, .missing fails missing⟩
          | stopped _ stops =>
              rw [← ending] at stops
              exact stops.elim
        · rw [if_neg missing] at instead
          exact nomatch instead.2
    | _ => exact nomatch instead.2

namespace Admits

variable {stack} {allowed : Action → Prop} (admits : stack.Admits allowed)

include admits

theorem of_readsHistory {action : Action} (h : stack.ReadsHistory action) : allowed action := by
  cases action with
  | invoked call =>
      rcases h with note | ⟨token, asks⟩
      · cases note
      · cases asks
        exact admits.page token
  | logged level message => exact admits.idle _ rfl
  | paused milliseconds => exact admits.idle _ rfl

theorem does_looks (wait : Wait) (pages attempt left : Nat) :
    (wait.looks stack pages attempt left).Does allowed := by
  have notes (level : Level) (message : String) : allowed (.logged level message) := admits.idle _ rfl
  have noted := (stack.does_noteFirstFailure pages wait.failures).mono fun _ => admits.of_readsHistory
  induction left generalizing attempt with
  | zero => trivial
  | succ left ih =>
      refine admits.does_newestEvent.bind fun event => ?_
      refine Program.Does.bind ?_ fun failed => ?_
      · unfold Wait.examine
        cases wait.isFailure event with
        | true => exact ⟨notes _ _, notes _ _, trivial⟩
        | false => exact ⟨notes _ _, trivial⟩
      · cases failed with
        | true => trivial
        | false =>
            refine admits.does_status.bind fun status => ?_
            split
            · trivial
            · split
              · exact ⟨notes _ _, noted.bind fun _ => trivial⟩
              · exact ⟨notes _ _, admits.idle _ rfl, ih (attempt + 1)⟩

theorem does_awaitCreation (pages : Nat) : (stack.awaitCreation pages).Does allowed :=
  admits.does_looks .creation pages 0 _

theorem does_awaitUpdate (pages : Nat) : (stack.awaitUpdate pages).Does allowed :=
  admits.does_looks .update pages 0 _

theorem does_awaitDeletion (pages : Nat) : (stack.awaitDeletion pages).Does allowed := by
  refine (admits.does_looks .deletion pages 0 _).recover fun failure => ?_
  split
  · split
    · exact ⟨admits.idle _ rfl, trivial⟩
    · trivial
  · trivial

end Admits

end Handle

theorem Wait.Undecided.reads {wait : Wait} {stack : Handle} {e : Exchange}
    (h : wait.Undecided stack e) : e.call.operation ∈ readings := by
  cases h with
  | event => exact stack.pageCall_reads none
  | status => exact stack.statusCall_reads

theorem Handle.Confirms.reads {stack : Handle} {e : Exchange} (h : stack.Confirms e) :
    e.call.operation ∈ readings := by
  cases h with
  | deleted => exact stack.statusCall_reads
  | missing fails =>
      cases fails with
      | events => exact stack.pageCall_reads none
      | status => exact stack.statusCall_reads

theorem changes_confirmed {stack : Handle} {during : List Exchange} {confirming : Exchange}
    (undecided : ∀ e ∈ during, Wait.deletion.Undecided stack e) (confirms : stack.Confirms confirming)
    (rest : List Exchange) : changes (during ++ confirming :: rest) = changes rest := by
  rw [changes_append, changes_of_reading fun e member => (undecided e member).reads,
    changes_cons_of_reading confirms.reads]
  rfl

/-- What follows the wait for a deletion is played only after an exchange that confirms the
deletion. -/
theorem Handle.plays_awaitDeletion_bind {α : Type} {stack : Handle} {pages : Nat}
    {f : Unit → Program α} {es : List Exchange} {outcome : Outcome α}
    (h : (stack.awaitDeletion pages >>= f).Plays es outcome) :
    (changes es = [] ∧ ∀ a, outcome ≠ .done a) ∨
      ∃ during confirming rest, es = during ++ confirming :: rest ∧
        (∀ e ∈ during, Wait.deletion.Undecided stack e) ∧ stack.Confirms confirming ∧
        (f ()).Plays rest outcome := by
  have reads := stack.admits_reads.does_awaitDeletion pages
  rcases Program.plays_bind.mp h with
    ⟨u, first, rest, rfl, waited, after⟩ | ⟨failure, waited, rfl⟩ | ⟨waited, rfl⟩
  · obtain ⟨during, confirming, rfl, undecided, confirms⟩ := stack.plays_awaitDeletion_done waited
    rw [List.append_assoc]
    exact .inr ⟨during, confirming, rest, rfl, undecided, confirms, after⟩
  · exact .inl ⟨reads.changes_eq_nil waited, nofun⟩
  · exact .inl ⟨reads.changes_eq_nil waited, nofun⟩

end ClusterStack.Stack
