import ClusterStack.Proofs.Cluster.CreationOrder
import ClusterStack.Proofs.Cluster.Methods
import ClusterStack.Proofs.Stack.Waits
/-!
# What a failed creation leaves behind

Nothing that a creation did is taken back when it fails. Once the cluster is created it stays, and with
it a stack or none: the old one, unless it is confirmed to be gone, or the new one, if its creation was
answered with an identifier. A cluster without a stack is left in two cases only: the template cannot be
read, or the creation of the stack is turned down.
-/
namespace ClusterStack

namespace Stack

variable {stack : Handle} {reply : Reply}

theorem Handle.eventsCall_ne_statusCall : stack.eventsCall ≠ stack.statusCall := by
  intro same
  have asked : "describe-stack-events" = "describe-stacks" := congrArg Invocation.operation same
  exact absurd asked (by decide)

theorem Wait.Undecided.of_events {wait : Wait} (h : wait.Undecided stack ⟨stack.eventsCall, reply⟩) :
    ∃ page event, Handle.pageIn reply = .ok page ∧ page.newest? = some event ∧
      event.status ≠ some (wait.failedResource : Text) := by
  generalize shape : (⟨stack.eventsCall, reply⟩ : Exchange) = e at h
  cases h with
  | event read newest fine =>
      cases shape
      exact ⟨_, _, read, newest, fine⟩
  | status => exact absurd (congrArg Exchange.call shape) Handle.eventsCall_ne_statusCall

theorem Wait.Undecided.of_status {wait : Wait} (h : wait.Undecided stack ⟨stack.statusCall, reply⟩) :
    ∃ status, stack.statusIn reply = .ok status ∧ status ≠ (wait.success : Text) ∧
      status ∉ wait.failures.map Text.ofString := by
  generalize shape : (⟨stack.statusCall, reply⟩ : Exchange) = e at h
  cases h with
  | event => exact absurd (congrArg Exchange.call shape).symm Handle.eventsCall_ne_statusCall
  | status read other fine =>
      cases shape
      exact ⟨_, read, other, fine⟩

namespace Handle

theorem Confirms.of_events (h : stack.Confirms ⟨stack.eventsCall, reply⟩) :
    ∃ cause, pageIn reply = .error cause ∧ cause.isAbsenceOfStack = true := by
  generalize shape : (⟨stack.eventsCall, reply⟩ : Exchange) = e at h
  cases h with
  | deleted => exact absurd (congrArg Exchange.call shape) eventsCall_ne_statusCall
  | missing fails absent =>
      cases fails with
      | events unread =>
          cases shape
          exact ⟨_, unread, absent⟩
      | status => exact absurd (congrArg Exchange.call shape) eventsCall_ne_statusCall

theorem Confirms.of_status (h : stack.Confirms ⟨stack.statusCall, reply⟩) :
    stack.statusIn reply = .ok "DELETE_COMPLETE" ∨
      ∃ cause, stack.statusIn reply = .error cause ∧ cause.isAbsenceOfStack = true := by
  generalize shape : (⟨stack.statusCall, reply⟩ : Exchange) = e at h
  cases h with
  | deleted read =>
      cases shape
      exact .inl read
  | missing fails absent =>
      cases fails with
      | events => exact absurd (congrArg Exchange.call shape).symm eventsCall_ne_statusCall
      | status unread =>
          cases shape
          exact .inr ⟨_, unread, absent⟩

end Handle

theorem Wait.Undecided.not_confirms {e : Exchange} (undecided : Wait.deletion.Undecided stack e) :
    ¬ stack.Confirms e := by
  intro confirms
  cases undecided with
  | event read =>
      obtain ⟨cause, unread, -⟩ := confirms.of_events
      rw [read] at unread
      cases unread
  | status read other =>
      rcases confirms.of_status with told | ⟨cause, unread, -⟩
      · rw [read] at told
        exact other (Except.ok.inj told)
      · rw [read] at unread
        cases unread

theorem Wait.Closes.not_undecided {wait : Wait} {e : Exchange} {rest : List Exchange}
    {outcome : Outcome Unit} (closes : wait.Closes stack (e :: rest) outcome) :
    ¬ wait.Undecided stack e := by
  intro undecided
  generalize shape : e :: rest = es at closes
  cases closes with
  | eventsUnknown unread =>
      cases shape
      obtain ⟨page, event, read, -⟩ := undecided.of_events
      rw [unread] at read
      cases read
  | noEvents read none =>
      cases shape
      obtain ⟨page, event, read', newest, -⟩ := undecided.of_events
      rw [read] at read'
      cases read'
      rw [none] at newest
      cases newest
  | resourceFailed read newest failed =>
      cases shape
      obtain ⟨page, event, read', newest', fine⟩ := undecided.of_events
      rw [read] at read'
      cases read'
      rw [newest] at newest'
      cases newest'
      exact fine failed
  | statusUnknown unread =>
      cases shape
      obtain ⟨status, read, -⟩ := undecided.of_status
      rw [unread] at read
      cases read
  | complete read =>
      cases shape
      obtain ⟨status, read', other, -⟩ := undecided.of_status
      rw [read] at read'
      exact other (Except.ok.inj read').symm
  | failedStatus read other failed =>
      cases shape
      obtain ⟨status, read', -, fine⟩ := undecided.of_status
      rw [read] at read'
      cases read'
      exact fine failed
  | timedOut => cases shape

/-- A wait for a deletion that is closed by an exchange that confirms it is complete. -/
theorem Wait.Closes.settled_of_confirms {e : Exchange} {rest : List Exchange} {ending : Outcome Unit}
    (closes : Wait.deletion.Closes stack (e :: rest) ending) (confirms : stack.Confirms e) :
    Operation.deletion.settled ending = .done () := by
  generalize shape : e :: rest = es at closes
  cases closes with
  | eventsUnknown unread =>
      cases shape
      obtain ⟨cause, unread', absent⟩ := confirms.of_events
      rw [unread] at unread'
      cases unread'
      exact Operation.settled_gone absent _ _
  | noEvents read | resourceFailed read =>
      cases shape
      obtain ⟨cause, unread, -⟩ := confirms.of_events
      rw [read] at unread
      cases unread
  | statusUnknown unread =>
      cases shape
      rcases confirms.of_status with read | ⟨cause, unread', absent⟩
      · rw [unread] at read
        cases read
      · rw [unread] at unread'
        cases unread'
        exact Operation.settled_gone absent _ _
  | complete => rfl
  | failedStatus read other =>
      cases shape
      rcases confirms.of_status with told | ⟨cause, unread, -⟩
      · rw [read] at told
        exact absurd (Except.ok.inj told) other
      · rw [read] at unread
        cases unread
  | timedOut => cases shape

/-- What confirms a deletion before anything else decides completes the wait for it. -/
theorem done_of_confirmed {pages : Nat} {during rest : List Exchange} {confirming : Exchange}
    {outcome : Outcome Unit}
    (play : (Operation.deletion.await stack pages).Plays (during ++ confirming :: rest) outcome)
    (undecided : ∀ e ∈ during, Wait.deletion.Undecided stack e) (confirms : stack.Confirms confirming) :
    outcome = .done () := by
  obtain ⟨during', last, ending, shape, undecided', closes, rfl⟩ := Operation.plays_await play
  rcases List.append_eq_append_iff.mp shape with ⟨more, rfl, tail⟩ | ⟨more, rfl, rfl⟩
  · cases more with
    | nil =>
        rw [List.nil_append] at tail
        rw [← tail] at closes
        exact closes.settled_of_confirms confirms
    | cons e more =>
        cases tail
        exact absurd confirms (undecided' _ (List.mem_append_right _ List.mem_cons_self)).not_confirms
  · cases more with
    | nil => exact closes.settled_of_confirms confirms
    | cons e more =>
        exact absurd (undecided e (List.mem_append_right _ List.mem_cons_self)) closes.not_undecided

/-- In the exchanges the deletion of the stack is asked for, and an exchange confirms it before anything
else decides the wait for it. -/
def Handle.ConfirmedGone (stack : Handle) (es : List Exchange) : Prop :=
  ∃ before deletion during confirming rest,
    es = before ++ ⟨stack.deletionCall, deletion⟩ :: (during ++ confirming :: rest) ∧
    (∀ e ∈ during, Wait.deletion.Undecided stack e) ∧ stack.Confirms confirming

end Stack

/-- A list is split only once around an item of this kind, if there are none before and after it. -/
theorem split_unique {α : Type} {P : α → Prop} {before before' after after' : List α} {a a' : α}
    (same : before ++ a :: after = before' ++ a' :: after') (kind : P a')
    (first : ∀ x ∈ before, ¬ P x) (last : ∀ x ∈ after, ¬ P x) : after = after' := by
  rcases List.append_eq_append_iff.mp same with ⟨more, rfl, tail⟩ | ⟨more, rfl, tail⟩
  · cases more with
    | nil =>
        cases tail
        rfl
    | cons x more =>
        cases tail
        exact absurd kind (last a' (List.mem_append_right _ List.mem_cons_self))
  · cases more with
    | nil =>
        cases tail
        rfl
    | cons x more =>
        cases tail
        exact absurd kind (first a' (List.mem_append_right _ List.mem_cons_self))

theorem not_deletion {es : List Exchange} (kept : "delete-stack" ∉ changes es) :
    ∀ e ∈ es, e.call.operation ≠ "delete-stack" := by
  intro e member deletes
  have made := mem_changes member (by rw [deletes]; decide)
  rw [deletes] at made
  exact kept made

theorem Stack.Handle.answersId_iff {reply : Reply} {id : Text} :
    AnswersId reply id ↔ idIn "create-stack" reply = .ok id := idIn_eq_ok_iff.symm

namespace Cluster

/-- In the exchanges a cluster is created, or found. -/
def FoundsCluster (es : List Exchange) : Prop :=
  ∃ e ∈ es, e.call.operation = "create-cluster" ∧ Service.HoldsCluster "create-cluster" e.reply

theorem FoundsCluster.changes_ne_nil {es : List Exchange} (founded : FoundsCluster es) :
    changes es ≠ [] := by
  intro none
  obtain ⟨e, member, asked, -⟩ := founded
  refine not_mem_of_changes_eq_nil none ?_ member
  rw [asked]
  decide

namespace Operator

variable (operator : Operator)

/-- After the exchanges of a creation there is a stack: the one that was there from the start and is not
confirmed to be gone, or the one that a call to create it was answered with. -/
def LeavesStack (es : List Exchange) : Prop :=
  (∃ described rest, es = ⟨operator.stack.statusCall, described⟩ :: rest ∧
    operator.stack.presenceIn described = .existing ∧ ¬ operator.stack.ConfirmedGone es) ∨
  ∃ e ∈ es, e.call.operation = "create-stack" ∧ ∃ id, Stack.Handle.AnswersId e.reply id

/-- The creation fails because there cannot be a new stack: its template is not readable, or the last
call is the one to create it and fails. -/
inductive LacksStack (template : Except Failure String) (es : List Exchange) : Failure → Prop
  | unreadable {cause : Failure} : template = .error cause →
      LacksStack template es (Failure.ofCall "ReadTemplate" operator.stack.name cause)
  | declined {before : List Exchange} {e : Exchange} {cause : Failure} : es = before ++ [e] →
      e.call.operation = "create-stack" → Stack.Handle.idIn "create-stack" e.reply = .error cause →
      LacksStack template es (Failure.ofCall "CreateStack" operator.stack.name cause)

variable {operator} {es : List Exchange} {failure : Failure} {template : Except Failure String}

theorem LacksStack.prepend {before : List Exchange} (lacks : operator.LacksStack template es failure) :
    operator.LacksStack template (before ++ es) failure := by
  cases lacks with
  | unreadable unread => exact .unreadable unread
  | @declined earlier e cause last creates unread =>
      have shape : before ++ es = before ++ earlier ++ [e] := by rw [last, ← List.append_assoc]
      exact .declined shape creates unread

/-- A stack whose creation fails was not created, or its creation was answered. -/
theorem plays_createStack_failed (atHand : operator.template = .ofExcept template)
    {parameters : Stack.Parameters} (h : (operator.createStack parameters).Plays es (.failed failure)) :
    operator.LacksStack template es failure ∨
      ∃ e ∈ es, e.call.operation = "create-stack" ∧ ∃ id, Stack.Handle.AnswersId e.reply id := by
  unfold createStack at h
  rw [atHand] at h
  cases template with
  | error cause =>
      obtain ⟨rfl, same⟩ := h
      cases same
      exact .inl (.unreadable rfl)
  | ok body =>
      have asks := (Stack.Service.asks_submit operator.stack.service "create-stack" "create"
        operator.stack.name ["--template-body", body] parameters).remotely "CreateStack"
          operator.stack.name
      obtain ⟨reply, rest, rfl, ⟨id, read, h₁⟩ | ⟨_, unread, rfl, same⟩⟩ := asks.bind h
      · refine .inr ⟨_, List.mem_cons_self, rfl, id, ?_⟩
        exact Stack.Handle.answersId_iff.mpr (mapError_eq_ok_iff.mp read)
      · cases same
        obtain ⟨cause, read, rfl⟩ := mapError_eq_error_iff.mp unread
        exact .inl (.declined (List.nil_append _).symm rfl read)

/-- A removal of the stack that fails is not confirmed. -/
theorem plays_removeStack_failed (h : operator.removeStack.Plays es (.failed failure)) :
    ∃ deletion waited, es = ⟨operator.stack.deletionCall, deletion⟩ :: waited ∧
      changes waited = [] ∧ ∀ during confirming rest, waited = during ++ confirming :: rest →
        (∀ e ∈ during, Stack.Wait.deletion.Undecided operator.stack e) →
        ¬ operator.stack.Confirms confirming := by
  obtain ⟨deletion, waited, rfl, ⟨rfl, -⟩ | ⟨-, -, h₁⟩⟩ := operator.stack.checks_delete.bind h
  · refine ⟨deletion, [], rfl, rfl, fun during confirming rest shape => ?_⟩
    exact absurd shape (List.append_ne_nil_of_right_ne_nil _ (List.cons_ne_nil _ _)).symm
  · have play := Program.plays_note.mp h₁
    refine ⟨deletion, waited, rfl, (operator.stack.admits_reads.does_awaitDeletion _).changes_eq_nil play, ?_⟩
    rintro during confirming rest rfl undecided confirms
    cases Stack.done_of_confirmed play undecided confirms

/-- The deletion that the creation asks for is the only one in its exchanges. -/
theorem not_confirmedGone {first waited : List Exchange} {deletion : Reply}
    (before : "delete-stack" ∉ changes first) (reads : changes waited = [])
    (unconfirmed : ∀ during confirming rest, waited = during ++ confirming :: rest →
      (∀ e ∈ during, Stack.Wait.deletion.Undecided operator.stack e) →
      ¬ operator.stack.Confirms confirming) :
    ¬ operator.stack.ConfirmedGone (first ++ ⟨operator.stack.deletionCall, deletion⟩ :: waited) := by
  rintro ⟨first', deletion', during, confirming, rest, shape, undecided, confirms⟩
  have later : "delete-stack" ∉ changes waited := by
    rw [reads]
    exact List.not_mem_nil
  have same := split_unique (P := fun e => e.call.operation = "delete-stack") shape rfl
    (not_deletion before) (not_deletion later)
  exact unconfirmed during confirming rest same undecided confirms

/-- What follows the creation of the cluster fails for want of a new stack, or leaves a stack. -/
theorem plays_establish_failed (atHand : operator.template = .ofExcept template)
    {parameters : Stack.Parameters} {replacing : Bool}
    (h : (if replacing = true then do
        operator.removeStack
        operator.createStack parameters
      else operator.createStack parameters).Plays es (.failed failure)) :
    operator.LacksStack template es failure ∨
      (∃ e ∈ es, e.call.operation = "create-stack" ∧ ∃ id, Stack.Handle.AnswersId e.reply id) ∨
      replacing = true ∧ operator.removeStack.Plays es (.failed failure) := by
  cases replacing with
  | false => exact (plays_createStack_failed atHand h).imp_right .inl
  | true =>
      rcases Program.plays_bind.mp h with
        ⟨u, first, rest, rfl, -, h₁⟩ | ⟨_, removed, same⟩ | ⟨-, same⟩
      · rcases plays_createStack_failed atHand h₁ with lacks | ⟨e, member, created⟩
        · exact .inl lacks.prepend
        · exact .inr (.inl ⟨e, List.mem_append_right _ member, created⟩)
      · cases same
        exact .inr (.inr ⟨rfl, removed⟩)
      · cases same

/-- A creation that fails after its cluster was created fails for want of a new stack, or leaves a
stack. -/
theorem plays_create_failed (atHand : operator.template = .ofExcept template) {o : CreationOptions}
    (h : (operator.create o).Plays es (.failed failure)) (founded : FoundsCluster es) :
    operator.config.cluster ≠ "" ∧
      (operator.LeavesStack es ∨ operator.LacksStack template es failure) := by
  rcases operator.plays_create_guarded h with ⟨rfl, -⟩ | ⟨-, named, size, -, h₁⟩
  · exact absurd rfl (founded.changes_ne_nil)
  refine ⟨named, ?_⟩
  obtain ⟨described, es₁, rfl, told⟩ := (operator.checks_ensureRoom _ _).bind h₁
  have made := founded.changes_ne_nil
  rw [changes_cons_of_reading operator.stack.statusCall_reads] at made
  rcases told with ⟨rfl, -⟩ | ⟨replacing, ⟨presence, -⟩, h₂⟩
  · exact absurd rfl made
  rcases operator.plays_furnish_establish h₂ with
    ⟨unchanged, -⟩ | ⟨complete, looked, rest, rfl, none, -, -, -, h₃⟩
  · exact absurd unchanged made
  obtain ⟨reply, others, rfl, ⟨name, -, h₄⟩ | ⟨_, unread, rfl, -⟩⟩ :=
    ((Service.asks_create _ _).remotely _ _).bind h₃
  · -- The cluster is created, and what follows fails.
    let founding : List Exchange := ⟨operator.stack.statusCall, described⟩ :: looked ++
      [⟨Service.creationCall operator.access operator.config.cluster, reply⟩]
    have shape (tail : List Exchange) : ⟨operator.stack.statusCall, described⟩ :: (looked ++
        ⟨Service.creationCall operator.access operator.config.cluster, reply⟩ :: tail) =
          founding ++ tail := by
      rw [List.append_assoc, List.cons_append, List.singleton_append]
    rw [shape]
    rcases plays_establish_failed atHand h₄ with lacks | ⟨e, member, created⟩ | ⟨rfl, removed⟩
    · exact .inr lacks.prepend
    · exact .inl (.inr ⟨e, List.mem_append_right _ member, created⟩)
    · obtain ⟨deletion, waited, rfl, reads, unconfirmed⟩ := plays_removeStack_failed removed
      have founds : changes founding = ["create-cluster"] := by
        change changes (_ :: (looked ++ [_])) = _
        rw [changes_cons_of_reading operator.stack.statusCall_reads, changes_append, none,
          changes_cons_of_change (Service.creationCall_changes _ _)]
        rfl
      have kept : "delete-stack" ∉ changes founding := by
        rw [founds]
        decide
      exact .inl (.inl ⟨described, _, rfl, presence, not_confirmedGone kept reads unconfirmed⟩)
  · -- The reply to the creation of the cluster is not one that creates it.
    obtain ⟨cause, unread, -⟩ := mapError_eq_error_iff.mp unread
    obtain ⟨e, member, asked, holds⟩ := founded
    have changing : e.call.operation ∉ readings := by
      rw [asked]
      decide
    rcases List.mem_append.mp (mem_of_mem_cons_reading member operator.stack.statusCall_reads changing)
      with earlier | last
    · exact absurd earlier (not_mem_of_changes_eq_nil none changing)
    · cases List.mem_singleton.mp last
      obtain ⟨name, read⟩ := Service.nameIn_ok operator.config.cluster holds
      rw [read] at unread
      cases unread

end Operator

end Cluster

end ClusterStack
