import ClusterStack.Proofs.Stack.Calls
import ClusterStack.Stack.Wait
/-!
# Looks at a stack

A wait looks at its stack again and again. What a single look finds depends on the answers to two
questions, the newest events and the status, of which the second one is not even asked when the first
one decides. Every finding but one ends the wait; after a pending one the wait rests and looks again.
-/
namespace ClusterStack.Stack

inductive Finding
  | eventsUnknown (failure : Failure)
  | noEvents
  | resourceFailed (event : Event)
  | statusUnknown (failure : Failure)
  | complete
  | failedStatus (status : Text)
  | pending (status : Text)
  deriving DecidableEq

def Finding.IsPending : Finding → Prop
  | .pending _ => True
  | _ => False

namespace Wait

variable {σ : Type} (wait : Wait) (stack : Handle) (pages : Nat) (backend : Backend σ)

/-- What a look finds in the answers to its questions. The events come first, and among the statuses
the one of success. -/
def finding (page : Except Failure EventPage) (status : Except Failure Text) : Finding :=
  match page with
  | .error failure => .eventsUnknown failure
  | .ok page =>
    match page.newest? with
    | none => .noEvents
    | some event =>
      if event.status = some (wait.failedResource : Text) then .resourceFailed event
      else
        match status with
        | .error failure => .statusUnknown failure
        | .ok status =>
          if status = (wait.success : Text) then .complete
          else if status ∈ wait.failures.map Text.ofString then .failedStatus status
          else .pending status

def afterEvents (s : σ) : σ := (backend s stack.eventsCall).2

def afterStatus (s : σ) : σ := (backend (afterEvents stack backend s) stack.statusCall).2

def found (s : σ) : Finding :=
  wait.finding (Handle.pageIn (backend s stack.eventsCall).1)
    (stack.statusIn (backend (afterEvents stack backend s) stack.statusCall).1)

theorem isOneOf_iff {t : Text} {strings : List String} :
    t.isOneOf strings = true ↔ t ∈ strings.map Text.ofString := by
  simp only [Text.isOneOf, List.any_eq_true, beq_iff_eq, List.mem_map, eq_comm (a := t)]

theorem isFailure_iff {event : Event} :
    wait.isFailure event = true ↔ event.status = some (wait.failedResource : Text) := beq_iff_eq

theorem bare_run_examine {α : Type} (event : Event) (f : Bool → Program α) (s : σ) :
    ((wait.examine event >>= f).run backend s).bare =
      ((f (wait.isFailure event)).run backend s).bare := by
  unfold examine
  cases wait.isFailure event <;> rfl

/-- A look without its notes: what it asks, and how the wait ends in it or goes on. -/
theorem bare_run_looks (attempt left : Nat) (s : σ) :
    ((wait.looks stack pages attempt (left + 1)).run backend s).bare =
      match wait.found stack backend s with
      | .eventsUnknown failure =>
        ⟨.failed (Failure.ofCall "DescribeStackEvents" stack.name failure), [.invoked stack.eventsCall],
          afterEvents stack backend s⟩
      | .noEvents =>
        ⟨.failed (stack.failure .noEvents), [.invoked stack.eventsCall],
          afterEvents stack backend s⟩
      | .resourceFailed event =>
        ⟨.failed (stack.failure (.resourceFailed wait.success (Text.shownIfGiven event.reason))),
          [.invoked stack.eventsCall], afterEvents stack backend s⟩
      | .statusUnknown failure =>
        ⟨.failed (Failure.ofCall "DescribeStacks" stack.name failure),
          [.invoked stack.eventsCall, .invoked stack.statusCall], afterStatus stack backend s⟩
      | .complete =>
        ⟨.done (), [.invoked stack.eventsCall, .invoked stack.statusCall],
          afterStatus stack backend s⟩
      | .failedStatus status =>
        ((stack.noteFirstFailure pages wait.failures >>= fun _ =>
          .fail (stack.failure (.failedStatus wait.success status.toString))).run backend
            (afterStatus stack backend s)).bare.afterAll
          [.invoked stack.eventsCall, .invoked stack.statusCall]
      | .pending _ =>
        ((wait.looks stack pages (attempt + 1) left).run backend
          (afterStatus stack backend s)).bare.afterAll
          [.invoked stack.eventsCall, .invoked stack.statusCall, .paused delay] := by
  rw [looks, Program.run_bind, Handle.run_newestEvent]
  unfold found finding Handle.newestIn
  cases Handle.pageIn (backend s stack.eventsCall).1 with
  | error failure => rfl
  | ok page =>
      dsimp only
      cases page.newest? with
      | none => rfl
      | some event =>
          simp only [Outcome.ofExcept, Run.andThen, Run.bare_afterAll, bare_run_examine]
          by_cases failed : event.status = some (wait.failedResource : Text)
          · rw [if_pos failed, wait.isFailure_iff.mpr failed]
            rfl
          · have passed : wait.isFailure event = false :=
              Bool.eq_false_iff.mpr (mt wait.isFailure_iff.mp failed)
            rw [if_neg failed, passed]
            simp only [Bool.false_eq_true, if_false]
            rw [Program.run_bind, Handle.run_status]
            change Run.afterAll _ (Run.bare (Run.andThen ⟨_, _, afterStatus stack backend s⟩ _)) = _
            unfold afterEvents
            cases stack.statusIn _ with
            | error failure => rfl
            | ok status =>
                simp only [Outcome.mapFailure, Outcome.ofExcept, Run.andThen]
                by_cases succeeded : status = (wait.success : Text)
                · rw [if_pos succeeded, beq_iff_eq.mpr succeeded]
                  rfl
                · rw [if_neg succeeded, beq_eq_false_iff_ne.mpr succeeded]
                  by_cases listed : status ∈ wait.failures.map Text.ofString
                  · rw [if_pos listed, isOneOf_iff.mpr listed]
                    rfl
                  · have unlisted : status.isOneOf wait.failures = false :=
                      Bool.eq_false_iff.mpr (mt isOneOf_iff.mp listed)
                    rw [if_neg listed, unlisted]
                    rfl

/-- The state of the outside before the look with this number, where all looks before it are
pending. -/
def beforeLook (s : σ) : Nat → σ
  | 0 => s
  | number + 1 => beforeLook (afterStatus stack backend s) number

/-- The finding of the look with this number, where all looks before it are pending. -/
def foundAt (s : σ) (number : Nat) : Finding :=
  wait.found stack backend (beforeLook stack backend s number)

def pendingSteps (count : Nat) : List Action :=
  (List.replicate count
    [.invoked stack.eventsCall, .invoked stack.statusCall, .paused delay]).flatten

/-- Pending looks only pass time: the wait goes on as one with fewer looks left. -/
theorem bare_run_pending (count attempt left : Nat) (s : σ)
    (pending : ∀ i < count, (wait.foundAt stack backend s i).IsPending) :
    ((wait.looks stack pages attempt (count + left)).run backend s).bare =
      ((wait.looks stack pages (attempt + count) left).run backend
        (beforeLook stack backend s count)).bare.afterAll (pendingSteps stack count) := by
  induction count generalizing attempt s with
  | zero =>
      rw [Nat.zero_add]
      rfl
  | succ count ih =>
      have first := pending 0 (Nat.zero_lt_succ count)
      have rest : ∀ i < count,
          (wait.foundAt stack backend (afterStatus stack backend s) i).IsPending :=
        fun i hi => pending (i + 1) (Nat.succ_lt_succ hi)
      rw [Nat.succ_add, bare_run_looks]
      change (wait.found stack backend s).IsPending at first
      cases hfound : wait.found stack backend s with
      | pending status =>
          simp only [ih _ _ rest, Run.afterAll_afterAll, Nat.add_right_comm attempt count 1,
            ← Nat.add_assoc]
          rfl
      | _ =>
          rw [hfound] at first
          exact first.elim

end Wait

end ClusterStack.Stack
