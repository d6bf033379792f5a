import ClusterStack.Proofs.Cluster.Placement
import ClusterStack.Proofs.Cluster.Unforeseen
import ClusterStack.Proofs.Tracking
/-!
# Tasks described in another order

The tasks in the replies that describe them may come in any order. A listing that comes to a result
still does when they come in another one, by the same calls.
-/
namespace ClusterStack.Cluster

/-- The exchanges are the same, but for the order of the tasks in a reply that describes tasks. -/
inductive Rearranged : Exchange → Exchange → Prop
  | kept (e : Exchange) : Rearranged e e
  | tasks {call : Invocation} {reply reply' : Reply} {tasks tasks' : List Task} :
      call.operation = "describe-tasks" → Service.tasksIn reply = .ok tasks →
      Service.tasksIn reply' = .ok tasks' → tasks.Perm tasks' →
      Rearranged ⟨call, reply⟩ ⟨call, reply'⟩

theorem Rearranged.call {e e' : Exchange} (h : Rearranged e e') : e'.call = e.call := by
  cases h <;> rfl

theorem Rearranged.eq {e e' : Exchange} (h : Rearranged e e')
    (other : e.call.operation ≠ "describe-tasks") : e = e' := by
  cases h with
  | kept => rfl
  | tasks describes => exact absurd describes other

/-- The action is not a call that describes tasks. -/
def Orderly : Action → Prop
  | .invoked call => call.operation ≠ "describe-tasks"
  | _ => True

theorem tracks_orderly {α : Type} {p : Program α} (orderly : p.Does Orderly) :
    Program.Tracks Rearranged p p Eq :=
  Program.tracks_self orderly fun _ _ other h => h.eq other

theorem Service.tracks_gather {α β : Type} {act : α → Program (List β)}
    (each : ∀ a, Program.Tracks Rearranged (act a) (act a) List.Perm) (items : List α) :
    Program.Tracks Rearranged (gather act items) (gather act items) List.Perm := by
  induction items with
  | nil => exact Program.tracks_pure (List.Perm.refl [])
  | cons a rest ih =>
      refine (each a).bind fun first first' here => ?_
      refine ih.bind fun others others' later => ?_
      exact Program.tracks_pure (here.append later)

theorem Service.tracks_describeBatch (access : Aws.Access) (cluster : String) (arns : List Json) :
    Program.Tracks Rearranged (describeBatch access cluster arns) (describeBatch access cluster arns)
      List.Perm := by
  refine Program.tracks_request fun reply e tasks h told => ?_
  change tasksIn reply = .ok tasks at told
  cases h with
  | kept => exact ⟨rfl, tasks, told, List.Perm.refl tasks⟩
  | @tasks _ _ reply' original tasks' _ read read' same =>
      rw [read] at told
      cases told
      exact ⟨rfl, tasks', read', same⟩

namespace Operator

variable (operator : Operator)

theorem tracks_tasks (cluster desiredStatus : String) :
    Program.Tracks Rearranged (operator.tasks cluster desiredStatus)
      (operator.tasks cluster desiredStatus) List.Perm := by
  have listed : (Service.listTasks operator.access cluster desiredStatus).Does Orderly := by
    apply Program.does_request
    change "list-tasks" ≠ "describe-tasks"
    decide
  refine (tracks_orderly (listed.remotely "ListTasks" cluster)).bind fun arns arns' same => ?_
  subst same
  split
  · exact Program.tracks_pure (List.Perm.refl [])
  · have each := Service.tracks_describeBatch operator.access cluster
    exact (Service.tracks_gather each (Service.batches arns)).remotely "DescribeTasks" cluster

theorem tracks_activeTasks :
    Program.Tracks Rearranged operator.activeTasks operator.activeTasks List.Perm := by
  have active : (operator.ensureActive operator.config.cluster).Does Orderly := by
    refine operator.does_ensureActive (fun _ _ => trivial) ?_
    change "describe-clusters" ≠ "describe-tasks"
    decide
  refine (tracks_orderly active).bind fun _ _ _ => ?_
  refine (operator.tracks_tasks _ running).bind fun ran ran' sameRunning => ?_
  refine (operator.tracks_tasks _ stopped).bind fun halted halted' sameStopped => ?_
  exact Program.tracks_pure (sameRunning.append sameStopped)

/-- What is asked after the tasks are known does not depend on their order. -/
theorem tracks_listActive :
    Program.Tracks Rearranged operator.listActive operator.listActive fun _ _ => True := by
  rw [listActive_eq]
  refine operator.tracks_activeTasks.bind fun tasks tasks' same => ?_
  have asked : operator.addresses operator.config.cluster tasks =
      operator.addresses operator.config.cluster tasks' := by
    unfold addresses
    rw [containerInstances_perm same]
  rw [← asked]
  have orderly : (operator.addresses operator.config.cluster tasks).Does Orderly := by
    refine operator.does_addresses_of (fun arns => ?_) (fun ids => ?_) tasks
    · change "describe-container-instances" ≠ "describe-tasks"
      decide
    · change "describe-instances" ≠ "describe-tasks"
      decide
  exact (tracks_orderly orderly).bind fun _ _ _ => Program.tracks_pure trivial

end Operator

end ClusterStack.Cluster
