import ClusterStack.Proofs.Cluster.Methods
import ClusterStack.Proofs.Stack.Waits
/-!
# Stages of a run

Not every fault ends a run. Which ones do not depends on how far the run has come, and this can be told
from the exchanges before the fault: a request about the stack is followed by the wait for it, and a
failed status by the search in the history. A list of exchanges abides by the stages if it is over with
its first fault that its stage does not excuse, and goes on as agreed after one that is excused.
-/
namespace ClusterStack.Cluster

inductive Stage
  | idle
  | waiting (operation : Stack.Operation)
  | searching (operation : Stack.Operation) (status : Text)

/-- The failure of the method does not end the run as its own. Before anything is asked for, a missing
stack is an answer; a stack that goes missing is deleted; and the search for a reason is dropped. -/
inductive Stage.Excuses : Stage → Method → Failure → Prop
  | absent {cause : Failure} : cause.isAbsenceOfStack = true → Excuses .idle .describeStacks cause
  | gone {method : Method} {cause : Failure} :
      method = .describeStacks ∨ method = .describeStackEvents → cause.isAbsenceOfStack = true →
      Excuses (.waiting .deletion) method cause
  | unsearchable {operation : Stack.Operation} {status : Text} {cause : Failure} :
      cause.isOfCall = true → Excuses (.searching operation status) .describeStackEvents cause

theorem Stage.Excuses.polls {stage : Stage} {method : Method} {cause : Failure}
    (h : stage.Excuses method cause) : method = .describeStacks ∨ method = .describeStackEvents := by
  cases h with
  | absent => exact .inl rfl
  | gone polls => exact polls
  | unsearchable => exact .inr rfl

namespace Operator

variable (operator : Operator)

def advance (stage : Stage) (e : Exchange) : Stage :=
  match Method.of? e.call with
  | some .createStack => .waiting .creation
  | some .updateStack => .waiting .update
  | some .deleteStack => .waiting .deletion
  | some .describeStacks =>
    match stage, operator.stack.statusIn e.reply with
    | .waiting operation, .ok status =>
      if status.isOneOf operation.wait.failures then .searching operation status else stage
    | _, _ => stage
  | _ => stage

def stageAfter (es : List Exchange) : Stage := es.foldl operator.advance .idle

/-- From the stage on, a fault that is not excused is the last exchange, and the run fails for it. After
one that is excused the run resumes as agreed. -/
def Abides {α : Type} (resumes : Stage → List Exchange → Outcome α → Prop) (stage : Stage)
    (es : List Exchange) (outcome : Outcome α) : Prop :=
  ∀ before e after method cause, es = before ++ e :: after → operator.Faults method e cause →
    (¬ (before.foldl operator.advance stage).Excuses method cause → after = [] ∧
      outcome = .failed (Failure.ofCall method.title (operator.resource method) cause)) ∧
    ((before.foldl operator.advance stage).Excuses method cause →
      resumes (before.foldl operator.advance stage) after outcome)

variable {operator} {α β : Type} {resumes : Stage → List Exchange → Outcome α → Prop}
  {stage : Stage} {es : List Exchange} {outcome : Outcome α}

theorem FailsWith.unique {reply : Reply} {method : Method} {cause other : Failure}
    (h : operator.FailsWith reply cause method) (h' : operator.FailsWith reply other method) :
    cause = other := by
  cases method with
  | resolveImageId =>
      obtain ⟨type, profile, images, read⟩ := h
      obtain ⟨type', profile', images', read'⟩ := h'
      rw [images] at images'
      cases images'
      exact Except.error.inj (read.symm.trans read')
  | _ => exact Except.error.inj (h.symm.trans h')

theorem Faults.unique {method method' : Method} {e : Exchange} {cause cause' : Failure}
    (h : operator.Faults method e cause) (h' : operator.Faults method' e cause') :
    method = method' ∧ cause = cause' := by
  obtain rfl : method = method' := Option.some.inj (h.calls.symm.trans h'.calls)
  exact ⟨rfl, h.fails.unique h'.fails⟩

theorem abides_nil : operator.Abides resumes stage [] outcome := by
  intro before e after method cause shape
  cases before <;> cases shape

theorem abides_cons {e : Exchange}
    (first : ∀ method cause, operator.Faults method e cause →
      (¬ stage.Excuses method cause → es = [] ∧
        outcome = .failed (Failure.ofCall method.title (operator.resource method) cause)) ∧
      (stage.Excuses method cause → resumes stage es outcome))
    (rest : operator.Abides resumes (operator.advance stage e) es outcome) :
    operator.Abides resumes stage (e :: es) outcome := by
  intro before f after method cause shape faults
  cases before with
  | nil =>
      cases shape
      exact first method cause faults
  | cons _ before =>
      cases shape
      exact rest before f after method cause rfl faults

theorem abides_cons_sound {e : Exchange} (sound : operator.Sound e)
    (rest : operator.Abides resumes (operator.advance stage e) es outcome) :
    operator.Abides resumes stage (e :: es) outcome :=
  abides_cons (fun method cause faults => absurd faults (sound method cause)) rest

theorem abides_append {first : List Exchange} (sound : ∀ e ∈ first, operator.Sound e)
    (rest : operator.Abides resumes (first.foldl operator.advance stage) es outcome) :
    operator.Abides resumes stage (first ++ es) outcome := by
  induction first generalizing stage with
  | nil => exact rest
  | cons e first ih =>
      obtain ⟨here, later⟩ := List.forall_mem_cons.mp sound
      exact abides_cons_sound here (ih later rest)

/-- A fault that is known, with what follows it. -/
theorem abides_fault {e : Exchange} {method : Method} {cause : Failure}
    (faults : operator.Faults method e cause)
    (last : ¬ stage.Excuses method cause → es = [] ∧
      outcome = .failed (Failure.ofCall method.title (operator.resource method) cause))
    (excused : stage.Excuses method cause → resumes stage es outcome ∧
      operator.Abides resumes (operator.advance stage e) es outcome) :
    operator.Abides resumes stage (e :: es) outcome := by
  refine abides_cons (fun method' cause' faults' => ?_) ?_
  · obtain ⟨rfl, rfl⟩ := faults.unique faults'
    exact ⟨last, fun h => (excused h).1⟩
  · by_cases h : stage.Excuses method cause
    · exact (excused h).2
    · rw [(last h).1]
      exact abides_nil

section

open Stack (Handle Operation Wait)

theorem calls_status : Method.of? operator.stack.statusCall = some .describeStacks :=
  Method.of?_eq rfl

theorem calls_page (token : Option Text) :
    Method.of? (operator.stack.pageCall token) = some .describeStackEvents := Method.of?_eq rfl

theorem advance_page (token : Option Text) (reply : Reply) :
    operator.advance stage ⟨operator.stack.pageCall token, reply⟩ = stage := by
  unfold advance
  rw [calls_page]

theorem sound_page {token : Option Text} {reply : Reply} {page : Stack.EventPage}
    (read : Handle.pageIn reply = .ok page) :
    operator.Sound ⟨operator.stack.pageCall token, reply⟩ := by
  refine sound_of (calls_page token) fun cause fails => ?_
  change Handle.pageIn reply = .error cause at fails
  rw [read] at fails
  cases fails

theorem sound_status {reply : Reply} {status : Text}
    (read : operator.stack.statusIn reply = .ok status) :
    operator.Sound ⟨operator.stack.statusCall, reply⟩ := by
  refine sound_of calls_status fun cause fails => ?_
  change operator.stack.statusIn reply = .error cause at fails
  rw [read] at fails
  cases fails

theorem advance_status {reply : Reply} {status : Text} {operation : Operation}
    (read : operator.stack.statusIn reply = .ok status) :
    operator.advance (.waiting operation) ⟨operator.stack.statusCall, reply⟩ =
      if status.isOneOf operation.wait.failures then .searching operation status
      else .waiting operation := by
  unfold advance
  rw [calls_status]
  simp only [read]

theorem advance_unread {reply : Reply} {cause : Failure}
    (unread : operator.stack.statusIn reply = .error cause) :
    operator.advance stage ⟨operator.stack.statusCall, reply⟩ = stage := by
  unfold advance
  rw [calls_status]
  simp only [unread]

theorem foldl_advance (kept : ∀ e ∈ es, operator.advance stage e = stage) :
    es.foldl operator.advance stage = stage := by
  induction es with
  | nil => rfl
  | cons e rest ih =>
      obtain ⟨here, later⟩ := List.forall_mem_cons.mp kept
      rw [List.foldl_cons, here, ih later]

variable (operator) in
/-- What a wait for the operation has to know of the program that goes on after it. -/
structure Agrees (operation : Operation) (f : Unit → Program α)
    (resumes : Stage → List Exchange → Outcome α → Prop) : Prop where
  reported : ∀ status, resumes (.searching operation status) []
    (.failed (.stack operator.stack.name (.failedStatus operation.wait.success status.toString)))
  gone : operation = .deletion → ∀ es outcome, (f ()).Plays es outcome →
    resumes (.waiting .deletion) es outcome
  further : ∀ es outcome, (f ()).Plays es outcome →
    operator.Abides resumes (.waiting operation) es outcome

variable {operation : Operation} {f : Unit → Program α}

/-- Nothing follows a wait that blames the stack. -/
theorem follows_stack {name : String} {fault : StackFault} {after : List Exchange}
    (h : Program.Follows f (operation.settled (.failed (.stack name fault))) after outcome) :
    after = [] ∧ outcome = .failed (.stack name fault) := by
  rw [operation.settled_stack] at h
  exact h

/-- The last page of a search is excused if it is unreadable for a reason that a call can end with. -/
theorem abides_search (agrees : operator.Agrees operation f resumes) {status : Text}
    {search after : List Exchange} {reading : Outcome (List Stack.Event)}
    (reads : operator.stack.Reading none search reading)
    (follows : Program.Follows f (operation.settled
      (operation.wait.report operator.stack status (Handle.remainder reading))) after outcome) :
    operator.Abides resumes (.searching operation status) (search ++ after) outcome := by
  have kept : ∀ e ∈ search, operator.advance (.searching operation status) e =
      .searching operation status := by
    intro e member
    obtain ⟨token, reply, rfl⟩ := reads.pages e member
    exact advance_page token reply
  have sound : ∀ e ∈ search, (∃ page, Handle.pageIn e.reply = .ok page) → operator.Sound e := by
    rintro e member ⟨page, read⟩
    obtain ⟨token, reply, rfl⟩ := reads.pages e member
    exact sound_page read
  have reported (done : Handle.remainder reading = .done ()) : after = [] ∧ outcome =
      .failed (.stack operator.stack.name
        (.failedStatus operation.wait.success status.toString)) := by
    rw [done] at follows
    exact follows_stack follows
  rcases reads.readable_or_last with
    ⟨hne, readable⟩ | ⟨earlier, last, cause, rfl, readable, unread, rfl⟩
  · have ended : after = [] := by
      cases reading with
      | done events => exact (reported rfl).1
      | failed failure => exact absurd rfl (hne failure)
      | unfinished => cases operation <;> exact follows.1
    rw [ended]
    exact abides_append (fun e member => sound e member (readable e member)) abides_nil
  · rw [List.append_assoc]
    refine abides_append (fun e member => sound e (List.mem_append_left _ member) (readable e member)) ?_
    rw [foldl_advance fun e member => kept e (List.mem_append_left _ member)]
    obtain ⟨token, reply, rfl⟩ :=
      reads.pages last (List.mem_append_right _ (List.mem_singleton_self last))
    have faults : operator.Faults .describeStackEvents ⟨operator.stack.pageCall token, reply⟩ cause :=
      ⟨calls_page token, unread⟩
    refine abides_fault faults (fun unexcused => ?_) fun excused => ?_
    · rcases Handle.pageIn_error unread with ofCall | unprepared
      · exact absurd (.unsearchable ofCall) unexcused
      · rw [unprepared.ofCall_eq, Handle.remainder_failed (Handle.not_putAside unprepared)] at follows
        change Program.Follows f (operation.settled (.failed cause)) after outcome at follows
        rw [operation.settled_failed (Handle.not_putAside unprepared)] at follows
        rw [unprepared.ofCall_eq]
        exact follows
    · cases excused with
      | unsearchable ofCall =>
          obtain ⟨rfl, rfl⟩ := reported (by rw [Failure.ofCall_eq_remote _ _ ofCall]; rfl)
          exact ⟨agrees.reported status, abides_nil⟩

/-- A poll that fails ends the wait: with success for a deletion whose stack is gone, and else for good. -/
theorem abides_poll (agrees : operator.Agrees operation f resumes) {e : Exchange} {method : Method}
    {cause : Failure} {after : List Exchange} (faults : operator.Faults method e cause)
    (polls : method = .describeStacks ∨ method = .describeStackEvents)
    (kept : operator.advance (.waiting operation) e = .waiting operation)
    (known : cause.isOfCall = true ∨ cause.Unprepared)
    (follows : Program.Follows f (operation.settled
      (.failed (Failure.ofCall method.title (operator.resource method) cause))) after outcome) :
    operator.Abides resumes (.waiting operation) (e :: after) outcome := by
  by_cases gone : operation = .deletion ∧ cause.isAbsenceOfStack = true
  · obtain ⟨rfl, gone⟩ := gone
    rw [Operation.settled_gone gone] at follows
    refine abides_fault faults (fun unexcused => absurd (.gone polls gone) unexcused) fun _ => ?_
    rw [kept]
    exact ⟨agrees.gone rfl after outcome follows, agrees.further after outcome follows⟩
  · rw [Operation.settled_ofCall known fun deletion absent => gone ⟨deletion, absent⟩] at follows
    refine abides_fault faults (fun _ => follows) fun excused => ?_
    cases excused with
    | gone _ absent => exact absurd ⟨rfl, absent⟩ gone

theorem abides_closes (agrees : operator.Agrees operation f resumes) {last after : List Exchange}
    {ending : Outcome Unit} (closes : operation.wait.Closes operator.stack last ending)
    (follows : Program.Follows f (operation.settled ending) after outcome) :
    operator.Abides resumes (.waiting operation) (last ++ after) outcome := by
  cases closes with
  | eventsUnknown unread =>
      exact abides_poll agrees ⟨calls_page none, unread⟩ (.inr rfl) (advance_page none _)
        (Handle.pageIn_error unread) follows
  | statusUnknown unread =>
      exact abides_poll agrees ⟨calls_status, unread⟩ (.inl rfl) (advance_unread unread)
        (operator.stack.statusIn_error unread) follows
  | noEvents read none =>
      obtain ⟨rfl, rfl⟩ := follows_stack follows
      exact abides_cons_sound (sound_page read) abides_nil
  | resourceFailed read newest failed =>
      obtain ⟨rfl, rfl⟩ := follows_stack follows
      exact abides_cons_sound (sound_page read) abides_nil
  | complete read =>
      have unlisted : Text.isOneOf (operation.wait.success : Text) operation.wait.failures = false := by
        cases operation <;> decide
      refine abides_cons_sound (sound_status read) ?_
      rw [advance_status read, unlisted]
      cases operation <;> exact agrees.further after outcome follows
  | failedStatus read other listed reads =>
      refine abides_cons_sound (sound_status read) ?_
      rw [advance_status read, Wait.isOneOf_iff.mpr listed]
      exact abides_search agrees reads follows
  | timedOut =>
      obtain ⟨rfl, rfl⟩ := follows_stack follows
      exact abides_nil

theorem abides_await (agrees : operator.Agrees operation f resumes) {pages : Nat}
    (h : (operation.await operator.stack pages >>= f).Plays es outcome) :
    operator.Abides resumes (.waiting operation) es outcome := by
  obtain ⟨first, inner, after, rfl, awaited, follows⟩ := Program.follows_of_plays h
  obtain ⟨during, last, ending, rfl, undecided, closes, rfl⟩ := Operation.plays_await awaited
  have kept : ∀ e ∈ during, operator.Sound e ∧
      operator.advance (.waiting operation) e = .waiting operation := by
    intro e member
    cases undecided e member with
    | event read newest other => exact ⟨sound_page read, advance_page none _⟩
    | status read other unlisted =>
        refine ⟨sound_status read, ?_⟩
        rw [advance_status read, Bool.eq_false_iff.mpr (mt Wait.isOneOf_iff.mp unlisted)]
        rfl
  rw [List.append_assoc]
  refine abides_append (fun e member => (kept e member).1) ?_
  rw [foldl_advance fun e member => (kept e member).2]
  exact abides_closes agrees closes follows

end

end Operator

end ClusterStack.Cluster
