import ClusterStack.Proofs.Kinds
import ClusterStack.Proofs.Stack.Endings
/-!
# Whom a wait blames

A wait that fails blames a service, for a reply that cannot be used, or the stack that it waits for.
-/
namespace ClusterStack.Stack

variable (stack : Handle)

theorem Handle.Reading.isOfService {stack : Handle} {token : Option Text} {es : List Exchange}
    {failure : Failure} (h : stack.Reading token es (.failed failure)) : failure.IsOfService := by
  rcases h.readable_or_last with ⟨hne, -⟩ | ⟨_, last, cause, -, -, unread, same⟩
  · exact absurd rfl (hne failure)
  · cases same
    refine Failure.isOfService_ofCall ?_ _ _
    rcases Handle.pageIn_error unread with call | unprepared
    · exact Failure.isOfService_of_isOfCall call
    · exact unprepared.isOfService

/-- A failure of a wait is one of a service, or one of its stack. -/
def Handle.BlamesWait (failure : Failure) : Prop :=
  failure.IsOfService ∨ ∃ fault, failure = .stack stack.name fault

theorem Handle.BlamesWait.not_isRejection {stack : Handle} {failure : Failure}
    (h : stack.BlamesWait failure) : ¬ failure.IsRejection := by
  rcases h with service | ⟨fault, rfl⟩
  · exact service.not_isRejection
  · exact id

theorem Wait.Closes.blames {wait : Wait} {stack : Handle} {es : List Exchange} {failure : Failure}
    (h : wait.Closes stack es (.failed failure)) : stack.BlamesWait failure := by
  generalize ending : Outcome.failed failure = outcome at h
  cases h with
  | eventsUnknown unread =>
      cases ending
      rcases Handle.pageIn_error unread with call | unprepared
      · exact .inl (Failure.isOfService_ofCall (Failure.isOfService_of_isOfCall call) _ _)
      · exact .inl (Failure.isOfService_ofCall unprepared.isOfService _ _)
  | statusUnknown unread =>
      cases ending
      rcases stack.statusIn_error unread with call | unprepared
      · exact .inl (Failure.isOfService_ofCall (Failure.isOfService_of_isOfCall call) _ _)
      · exact .inl (Failure.isOfService_ofCall unprepared.isOfService _ _)
  | @failedStatus reply status search reading hr succeeded listed reads =>
      cases reading with
      | done events =>
          cases ending
          exact .inr ⟨_, rfl⟩
      | unfinished => cases ending
      | failed cause =>
          have service := reads.isOfService
          cases cause with
          | remote operation resource cause =>
              cases ending
              exact .inr ⟨_, rfl⟩
          | stack name fault => exact service.elim
          | _ =>
              cases ending
              exact .inl service
  | complete => cases ending
  | _ =>
      cases ending
      exact .inr ⟨_, rfl⟩

theorem Wait.failsOnly_run (wait : Wait) (pages : Nat) :
    (wait.run stack pages).FailsOnly stack.BlamesWait := by
  intro es failure play
  obtain ⟨during, last, -, -, closes⟩ := wait.plays_looks stack play
  exact closes.blames

theorem Handle.failsOnly_awaitDeletion (pages : Nat) :
    (stack.awaitDeletion pages).FailsOnly stack.BlamesWait := by
  refine Program.failsOnly_recover (Wait.deletion.failsOnly_run stack pages) fun failure blames => ?_
  split
  · split
    · intro es other play
      exact nomatch play.2
    · exact Program.failsOnly_fail blames
  · exact Program.failsOnly_fail blames

end ClusterStack.Stack
