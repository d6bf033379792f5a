import ClusterStack.Proofs.Cluster.Kinds
/-!
# What a listing asks

A listing asks the services of the cluster and of its instances, and nothing about the stack. It halts
at the first fault, and what else it can fail for is a guard or the data of an answer.
-/
namespace ClusterStack.Cluster

/-- The action is a note, or a question of a listing. -/
def Lists : Action → Prop
  | .invoked call => call.operation ∈ ["describe-clusters", "list-tasks", "describe-tasks",
    "describe-container-instances", "describe-instances"]
  | _ => True

theorem Lists.reads {action : Action} (h : Lists action) : Program.Reads action := by
  cases action with
  | invoked call =>
      have both : ∀ operation ∈ ["describe-clusters", "list-tasks", "describe-tasks",
        "describe-container-instances", "describe-instances"], operation ∈ readings := by decide
      exact both _ h
  | _ => trivial

namespace Service

variable (access : Aws.Access) (cluster : String)

def tasksCall (desiredStatus : String) : Invocation := invocation access "list-tasks"
  [.str "--cluster", .str cluster, .str "--desired-status", .str desiredStatus]

def descriptionCall (tasks : List Json) : Invocation :=
  invocation access "describe-tasks" (.str "--cluster" :: .str cluster :: .str "--tasks" :: tasks)

def instancesCall (arns : List Json) : Invocation := invocation access "describe-container-instances"
  (.str "--cluster" :: .str cluster :: .str "--container-instances" :: arns)

end Service

def Instances.addressesCall (access : Aws.Access) (ids : List Json) : Invocation :=
  access.invocation "ec2" "describe-instances" (.str "--instance-ids" :: ids)

/-- The addresses of instances are asked for in one call, if there are any. -/
theorem Instances.plays_addresses {access : Aws.Access} {ids : List Json} {es : List Exchange}
    {outcome : Outcome (List (Json × Json))} (h : (addresses access ids).Plays es outcome) :
    (ids = [] ∧ es = [] ∧ outcome = .done []) ∨
      ids ≠ [] ∧ ∃ reply, es = [⟨addressesCall access ids, reply⟩] ∧
        outcome = .ofExcept (addressesIn reply) := by
  cases ids with
  | nil =>
      obtain ⟨rfl, rfl⟩ := h
      exact .inl ⟨rfl, rfl, rfl⟩
  | cons id rest => exact .inr ⟨List.cons_ne_nil id rest, Program.plays_request.mp h⟩

theorem Service.does_gather {α β : Type} {allowed : Action → Prop} {act : α → Program (List β)}
    (h : ∀ a, (act a).Does allowed) (items : List α) : (gather act items).Does allowed := by
  induction items with
  | nil => trivial
  | cons a rest ih => exact (h a).bind fun _ => ih.bind fun _ => trivial

namespace Operator

variable (operator : Operator)

theorem does_tasks_of {allowed : Action → Prop} {cluster desiredStatus : String}
    (lists : allowed (.invoked (Service.tasksCall operator.access cluster desiredStatus)))
    (describes : ∀ tasks, allowed (.invoked (Service.descriptionCall operator.access cluster tasks))) :
    (operator.tasks cluster desiredStatus).Does allowed := by
  refine Program.Does.bind (Program.Does.remotely _ _ (Program.does_request lists)) fun arns => ?_
  split
  · trivial
  refine Program.Does.remotely _ _ (Service.does_gather (fun batch => ?_) _)
  exact Program.does_request (describes batch)

theorem does_tasks (cluster desiredStatus : String) :
    (operator.tasks cluster desiredStatus).Does Lists := by
  refine operator.does_tasks_of ?_ fun tasks => ?_
  · change "list-tasks" ∈ _
    decide
  · change "describe-tasks" ∈ _
    decide

theorem does_instanceIds {allowed : Action → Prop} {cluster : String}
    (describes : ∀ arns, allowed (.invoked (Service.instancesCall operator.access cluster arns)))
    (arns : List Json) : (Service.instanceIds operator.access cluster arns).Does allowed := by
  refine Program.does_foldlM (fun entries batch => ?_) _ _
  exact Program.does_request (describes batch)

theorem does_addresses_of {allowed : Action → Prop} {cluster : String}
    (describes : ∀ arns, allowed (.invoked (Service.instancesCall operator.access cluster arns)))
    (locates : ∀ ids, allowed (.invoked (Instances.addressesCall operator.access ids)))
    (tasks : List Task) : (operator.addresses cluster tasks).Does allowed := by
  unfold addresses
  split
  · trivial
  refine Program.Does.bind (Program.Does.remotely _ _ (operator.does_instanceIds describes _))
    fun instances => ?_
  refine Program.Does.bind (Program.does_ofExcept _) fun ids => ?_
  refine Program.Does.bind (Program.Does.remotely _ _ ?_) fun _ => trivial
  unfold Instances.addresses
  split
  · trivial
  · exact Program.does_request (locates ids)

theorem does_addresses (cluster : String) (tasks : List Task) :
    (operator.addresses cluster tasks).Does Lists := by
  refine operator.does_addresses_of (fun arns => ?_) (fun ids => ?_) tasks
  · change "describe-container-instances" ∈ _
    decide
  · change "describe-instances" ∈ _
    decide

theorem does_list : operator.list.Does Lists := by
  have active : Lists (.invoked (Service.activeCall operator.access operator.config.cluster)) := by
    change "describe-clusters" ∈ _
    decide
  unfold list chosenName
  cases operator.config.cluster != "" with
  | false => trivial
  | true =>
      refine (operator.does_ensureActive (fun _ _ => trivial) active).bind fun _ => ?_
      refine (operator.does_tasks _ _).bind fun _ => (operator.does_tasks _ _).bind fun _ => ?_
      exact (operator.does_addresses _ _).bind fun _ => trivial

theorem raises_distinctValues (entries : List (Json × Json)) :
    RaisesOfService (distinctValues entries) := by
  refine (raisesOnly_mapM Aws.Answer.raises_key _).bind fun values => ?_
  split
  · exact raisesOnly_ok _
  · exact raisesOnly_error trivial

section

variable {own : Failure → Prop}

theorem halts_ensure {condition : Bool} {refusal : Refusal} (h : own (.refused refusal)) :
    (ensure condition refusal).Halts operator.judgement own := by
  cases condition with
  | true => exact Program.halts_pure ()
  | false => exact Program.halts_fail h

theorem halts_ensureActive (h : own (.refused (.clusterNotActive operator.config.cluster))) :
    (operator.ensureActive operator.config.cluster).Halts operator.judgement own :=
  (Uses.halts operator operator.uses_isActive).bind fun _ => operator.halts_ensure h

theorem halts_tasks (desiredStatus : String) :
    (operator.tasks operator.config.cluster desiredStatus).Halts operator.judgement own := by
  refine (Uses.halts operator (operator.uses_listTasks desiredStatus)).bind fun arns => ?_
  split
  · exact Program.halts_pure []
  · exact Uses.halts operator (operator.uses_describeTasks arns)

theorem halts_addresses (service : ∀ failure, failure.IsOfService → own failure)
    (tasks : List Task) :
    (operator.addresses operator.config.cluster tasks).Halts operator.judgement own := by
  unfold addresses
  split
  · exact Program.halts_pure []
  refine (Uses.halts operator (operator.uses_instanceIds _)).bind fun instances => ?_
  refine Program.Halts.bind (Program.halts_ofExcept (distinctValues instances) ?_) fun ids => ?_
  · intro failure unfit
    exact service failure (raises_distinctValues instances failure unfit)
  exact (Uses.halts operator (operator.uses_describeInstances ids)).bind fun _ => Program.halts_pure _

end

theorem halts_list : operator.list.Halts operator.judgement fun failure => ¬ failure.IsOfStack := by
  unfold list chosenName
  cases operator.config.cluster != "" with
  | false => exact Program.halts_fail id
  | true =>
      refine (operator.halts_ensureActive id).bind fun _ => ?_
      refine (operator.halts_tasks _).bind fun _ => (operator.halts_tasks _).bind fun _ => ?_
      exact (operator.halts_addresses (fun _ service => service.not_isOfStack) _).bind
        fun _ => Program.halts_pure _

end Operator

end ClusterStack.Cluster
