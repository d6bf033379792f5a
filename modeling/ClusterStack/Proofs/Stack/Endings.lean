import ClusterStack.Proofs.Stack.FailureSearch
import ClusterStack.Proofs.Stack.Looks
/-!
# What ends a wait

All exchanges of a wait but the last ones leave it undecided. The last ones decide, and how the wait
ends is read off them: off one reply, or off the search in the history that a failed status is followed
by. A wait without any such exchange has run out of looks.
-/
namespace ClusterStack.Stack

variable (wait : Wait) (stack : Handle)

/-- The exchange leaves the wait undecided. -/
inductive Wait.Undecided : Exchange → Prop
  | event {reply : Reply} {page : EventPage} {event : Event} : Handle.pageIn reply = .ok page →
      page.newest? = some event → event.status ≠ some (wait.failedResource : Text) →
      Undecided ⟨stack.eventsCall, reply⟩
  | status {reply : Reply} {status : Text} : stack.statusIn reply = .ok status →
      status ≠ (wait.success : Text) → status ∉ wait.failures.map Text.ofString →
      Undecided ⟨stack.statusCall, reply⟩

/-- The newest event is known, and is not that a resource failed. -/
def Wait.Unfailed (reply : Reply) : Prop :=
  ∃ page event, Handle.pageIn reply = .ok page ∧ page.newest? = some event ∧
    event.status ≠ some (wait.failedResource : Text)

/-- The status is known, and is neither that of success nor a failed one. -/
def Wait.Pending (reply : Reply) : Prop :=
  ∃ status, stack.statusIn reply = .ok status ∧ status ≠ (wait.success : Text) ∧
    status ∉ wait.failures.map Text.ofString

variable {wait stack} in
theorem Wait.Unfailed.undecided {reply : Reply} (h : wait.Unfailed reply) :
    wait.Undecided stack ⟨stack.eventsCall, reply⟩ := by
  obtain ⟨page, event, read, newest, unfailed⟩ := h
  exact .event read newest unfailed

variable {wait stack} in
theorem Wait.Pending.undecided {reply : Reply} (h : wait.Pending stack reply) :
    wait.Undecided stack ⟨stack.statusCall, reply⟩ := by
  obtain ⟨status, read, unsuccessful, unlisted⟩ := h
  exact .status read unsuccessful unlisted

/-- The ending of a wait that came to a failed status, after the search for the first failure has left
this. -/
def Wait.report (status : Text) : Outcome Unit → Outcome Unit
  | .done _ => .failed (stack.failure (.failedStatus wait.success status.toString))
  | outcome => outcome

/-- The last exchanges of a wait, with the ending that they decide. -/
inductive Wait.Closes : List Exchange → Outcome Unit → Prop
  | eventsUnknown {reply : Reply} {cause : Failure} : Handle.pageIn reply = .error cause →
      Closes [⟨stack.eventsCall, reply⟩]
        (.failed (Failure.ofCall "DescribeStackEvents" stack.name cause))
  | noEvents {reply : Reply} {page : EventPage} : Handle.pageIn reply = .ok page →
      page.newest? = none → Closes [⟨stack.eventsCall, reply⟩] (.failed (stack.failure .noEvents))
  | resourceFailed {reply : Reply} {page : EventPage} {event : Event} :
      Handle.pageIn reply = .ok page → page.newest? = some event →
      event.status = some (wait.failedResource : Text) →
      Closes [⟨stack.eventsCall, reply⟩]
        (.failed (stack.failure (.resourceFailed wait.success (Text.shownIfGiven event.reason))))
  | statusUnknown {reply : Reply} {cause : Failure} : stack.statusIn reply = .error cause →
      Closes [⟨stack.statusCall, reply⟩] (.failed (Failure.ofCall "DescribeStacks" stack.name cause))
  | complete {reply : Reply} : stack.statusIn reply = .ok (wait.success : Text) →
      Closes [⟨stack.statusCall, reply⟩] (.done ())
  | failedStatus {reply : Reply} {status : Text} {search : List Exchange}
      {reading : Outcome (List Event)} : stack.statusIn reply = .ok status →
      status ≠ (wait.success : Text) → status ∈ wait.failures.map Text.ofString →
      stack.Reading none search reading →
      Closes (⟨stack.statusCall, reply⟩ :: search)
        (wait.report stack status (Handle.remainder reading))
  | timedOut : Closes [] (.failed (stack.failure (.timedOut wait.success wait.attempts)))

namespace Handle

variable {es : List Exchange}

theorem plays_newestEvent {outcome : Outcome Event} (h : stack.newestEvent.Plays es outcome) :
    ∃ reply, es = [⟨stack.eventsCall, reply⟩] ∧
      ((∃ page event, pageIn reply = .ok page ∧ page.newest? = some event ∧ outcome = .done event) ∨
        (∃ page, pageIn reply = .ok page ∧ page.newest? = none ∧
          outcome = .failed (stack.failure .noEvents)) ∨
        ∃ cause, pageIn reply = .error cause ∧
          outcome = .failed (Failure.ofCall "DescribeStackEvents" stack.name cause)) := by
  obtain ⟨reply, rest, rfl, ⟨page, hr, hrest⟩ | ⟨cause, hr, rfl, rfl⟩⟩ := stack.plays_events_bind.mp h
  · cases newest : page.newest? with
    | none =>
        rw [newest] at hrest
        obtain ⟨rfl, rfl⟩ := hrest
        exact ⟨reply, rfl, .inr (.inl ⟨page, hr, newest, rfl⟩)⟩
    | some event =>
        rw [newest] at hrest
        obtain ⟨rfl, rfl⟩ := hrest
        exact ⟨reply, rfl, .inl ⟨page, event, hr, newest, rfl⟩⟩
  · exact ⟨reply, rfl, .inr (.inr ⟨cause, hr, rfl⟩)⟩

end Handle

namespace Wait

variable {α : Type} {es : List Exchange}

theorem plays_examine_bind {event : Event} {f : Bool → Program α} {outcome : Outcome α} :
    (wait.examine event >>= f).Plays es outcome ↔ (f (wait.isFailure event)).Plays es outcome := by
  unfold examine
  cases wait.isFailure event <;> exact Iff.rfl

theorem plays_report {pages : Nat} {status : Text} {outcome : Outcome Unit}
    (h : (stack.noteFirstFailure pages wait.failures >>= fun _ =>
      .fail (stack.failure (.failedStatus wait.success status.toString))).Plays es outcome) :
    ∃ reading, stack.Reading none es reading ∧
      outcome = wait.report stack status (Handle.remainder reading) := by
  rcases Program.plays_bind.mp h with
    ⟨u, first, rest, rfl, noted, rfl, rfl⟩ | ⟨failure, noted, rfl⟩ | ⟨noted, rfl⟩
  all_goals
    obtain ⟨reading, reads, same⟩ := stack.plays_noteFirstFailure noted
    refine ⟨reading, ?_, by rw [← same]; rfl⟩
  · rw [List.append_nil]
    exact reads
  · exact reads
  · exact reads

theorem plays_look_status {pages attempt left : Nat} {outcome : Outcome Unit}
    (h : (do
      let status ← stack.status
      if status == wait.success then pure ()
      else if status.isOneOf wait.failures then do
        Program.note .debug "Stack operation failed. Getting first failed event"
        stack.noteFirstFailure pages wait.failures
        .fail (stack.failure (.failedStatus wait.success status.toString))
      else do
        Program.note (level attempt) s!"Cloudformation stack status: {status}"
        Program.rest delay
        wait.looks stack pages (attempt + 1) left : Program Unit).Plays es outcome) :
    wait.Closes stack es outcome ∨
      ∃ described rest, es = ⟨stack.statusCall, described⟩ :: rest ∧ wait.Pending stack described ∧
        (wait.looks stack pages (attempt + 1) left).Plays rest outcome := by
  obtain ⟨reply, rest, rfl, ⟨status, hr, h⟩ | ⟨cause, hr, rfl, rfl⟩⟩ := stack.plays_status_bind.mp h
  · by_cases succeeded : status = (wait.success : Text)
    · rw [beq_iff_eq.mpr succeeded] at h
      obtain ⟨rfl, rfl⟩ := h
      rw [succeeded] at hr
      exact .inl (.complete hr)
    · rw [beq_eq_false_iff_ne.mpr succeeded] at h
      by_cases listed : status ∈ wait.failures.map Text.ofString
      · rw [isOneOf_iff.mpr listed] at h
        obtain ⟨reading, reads, rfl⟩ := wait.plays_report stack (Program.plays_note.mp h)
        exact .inl (.failedStatus hr succeeded listed reads)
      · rw [Bool.eq_false_iff.mpr (mt isOneOf_iff.mp listed)] at h
        exact .inr ⟨reply, rest, rfl, ⟨status, hr, succeeded, listed⟩, h⟩
  · exact .inl (.statusUnknown hr)

/-- A look fails at the events, ends the wait after them, or is undecided in both its exchanges and
followed by the other looks. -/
theorem plays_look {pages attempt left : Nat} {outcome : Outcome Unit}
    (h : (wait.looks stack pages attempt (left + 1)).Plays es outcome) :
    (wait.Closes stack es outcome ∧ ∃ failure, outcome = .failed failure) ∨
      ∃ newest rest, es = ⟨stack.eventsCall, newest⟩ :: rest ∧ wait.Unfailed newest ∧
        (wait.Closes stack rest outcome ∨
          ∃ described others, rest = ⟨stack.statusCall, described⟩ :: others ∧
            wait.Pending stack described ∧
            (wait.looks stack pages (attempt + 1) left).Plays others outcome) := by
  rcases Program.plays_bind.mp h with
    ⟨event, first, rest, rfl, hevent, hrest⟩ | ⟨failure, hevent, rfl⟩ | ⟨hevent, rfl⟩
  · obtain ⟨reply, rfl, ⟨page, _, hr, newest, hd⟩ | ⟨page, -, -, hd⟩ | ⟨cause, -, hd⟩⟩ :=
      stack.plays_newestEvent hevent
    · cases hd
      rw [wait.plays_examine_bind] at hrest
      by_cases failed : event.status = some (wait.failedResource : Text)
      · rw [wait.isFailure_iff.mpr failed] at hrest
        obtain ⟨rfl, rfl⟩ := hrest
        exact .inl ⟨.resourceFailed hr newest failed, _, rfl⟩
      · rw [Bool.eq_false_iff.mpr (mt wait.isFailure_iff.mp failed)] at hrest
        have unfailed : wait.Unfailed reply := ⟨page, event, hr, newest, failed⟩
        exact .inr ⟨reply, rest, rfl, unfailed, wait.plays_look_status stack hrest⟩
    · cases hd
    · cases hd
  · obtain ⟨reply, rfl, ⟨_, _, -, -, hd⟩ | ⟨page, hr, newest, hd⟩ | ⟨cause, hr, hd⟩⟩ :=
      stack.plays_newestEvent hevent
    · cases hd
    · cases hd
      exact .inl ⟨.noEvents hr newest, _, rfl⟩
    · cases hd
      exact .inl ⟨.eventsUnknown hr, _, rfl⟩
  · obtain ⟨reply, rfl, ⟨_, _, -, -, hd⟩ | ⟨page, -, -, hd⟩ | ⟨cause, -, hd⟩⟩ :=
      stack.plays_newestEvent hevent
    · cases hd
    · cases hd
    · cases hd

theorem plays_looks {pages attempt left : Nat} {outcome : Outcome Unit}
    (h : (wait.looks stack pages attempt left).Plays es outcome) :
    ∃ during last, es = during ++ last ∧ (∀ e ∈ during, wait.Undecided stack e) ∧
      wait.Closes stack last outcome := by
  induction left generalizing attempt es with
  | zero =>
      obtain ⟨rfl, rfl⟩ := h
      exact ⟨[], [], rfl, nofun, .timedOut⟩
  | succ left ih =>
      rcases wait.plays_look stack h with
        ⟨closes, -⟩ | ⟨newest, rest, rfl, first, closes | ⟨described, others, rfl, second, h⟩⟩
      · exact ⟨[], es, rfl, nofun, closes⟩
      · exact ⟨[_], rest, rfl, List.forall_mem_singleton.mpr first.undecided, closes⟩
      · obtain ⟨during, last, rfl, undecided, closes⟩ := ih h
        have both := List.forall_mem_cons.mpr ⟨second.undecided, undecided⟩
        exact ⟨_ :: _ :: during, last, rfl, List.forall_mem_cons.mpr ⟨first.undecided, both⟩, closes⟩

end Wait

end ClusterStack.Stack
