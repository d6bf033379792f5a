import ClusterStack.Proofs.Cluster.Guards
import ClusterStack.Proofs.Cluster.Methods
import ClusterStack.Proofs.Kinds
/-!
# Kinds of failure of the methods and guards

What the methods end with is the failure of a service; only the look-up of an image can also reject a
command. The guards reject, and nothing in front of a request about a stack blames the stack.
-/
namespace ClusterStack.Cluster

namespace Service

theorem raises_readName (operation asked : String) (answer : List (Text × Json)) :
    RaisesOfService (readName operation asked answer) := (Aws.raises_responseMember _ _ _ _ _).map _

theorem raises_readStatus (cluster : String) (answer : List (Text × Json)) :
    RaisesOfService (readStatus? cluster answer) := by
  unfold readStatus?
  split
  · exact raisesOnly_ok none
  · split
    · exact raisesOnly_error trivial
    · exact (Aws.Answer.raises_first _).bind fun description =>
        (Aws.Answer.raises_member description _).bind fun status => raisesOnly_ok (some status)

theorem raises_readInstance (entries : List (Json × Json)) (description : Json) :
    RaisesOfService (readInstance entries description) := by
  refine (Aws.Answer.raises_member _ _).bind fun arn => ?_
  split
  · exact raisesOnly_ok entries
  · refine (Aws.Answer.raises_member _ _).bind fun id => ?_
    split
    · exact raisesOnly_ok entries
    · exact Aws.Answer.raises_store arn id entries

end Service

namespace Instances

theorem raises_readAddress (entries : List (Json × Json)) (description : Json) :
    RaisesOfService (readAddress entries description) := by
  refine (Aws.Answer.raises_member _ _).bind fun id => ?_
  split
  · exact raisesOnly_ok entries
  · exact (Aws.Answer.raises_member _ _).bind fun address => Aws.Answer.raises_store id address entries

theorem raises_readReservation (entries : List (Json × Json)) (reservation : Json) :
    RaisesOfService (readReservation entries reservation) :=
  (Aws.Answer.raises_members _).bind fun _ => (Aws.Answer.raises_elementsOf _ _).bind fun _ =>
    raisesOnly_foldlM raises_readAddress _ _

theorem raises_readReservations (answer : List (Text × Json)) : RaisesOfService (readReservations answer) := by
  unfold readReservations
  split
  · exact raisesOnly_error trivial
  · exact (Aws.Answer.raises_elements _).bind fun _ => raisesOnly_foldlM raises_readReservation _ _

end Instances

theorem raisesOnly_readRecommended (parameter region : String) (reply : Reply) :
    RaisesOnly (fun failure => failure.IsOfService ∨ ∃ fault, failure = .image fault)
      (Image.readRecommended parameter region reply) := by
  intro failure h
  unfold Image.readRecommended at h
  have answered := Aws.raises_readReply "get-parameter" reply
  split at h
  · split at h
    · cases h
      exact .inr ⟨_, rfl⟩
    · cases h
      exact .inl trivial
  · rename_i cause unread
    cases h
    exact .inl (answered _ unread)
  · rename_i answer unread
    cases read : Image.readIdentifier answer with
    | ok id =>
        rw [read] at h
        cases h
    | error cause =>
        rw [read] at h
        cases cause with
        | overNested =>
            cases h
            exact .inl trivial
        | _ =>
            cases h
            exact .inr ⟨_, rfl⟩

namespace Operator

variable {operator : Operator} {reply : Reply} {cause : Failure}

/-- A method ends with the failure of a service; only the resolution of an image has failures of its
own. -/
theorem FailsWith.kind {method : Method} (h : operator.FailsWith reply cause method) :
    cause.IsOfService ∨ (method = .resolveImageId ∧ ∃ fault, cause = .image fault) := by
  cases method with
  | createStack | updateStack =>
      exact .inl (((Aws.raises_readReply _ _).bind fun _ => Aws.raises_responseMember _ _ _ _ _) _ h)
  | deleteStack => exact .inl (Aws.raises_readReply _ _ _ h)
  | describeStacks =>
      rcases operator.stack.statusIn_error h with call | unprepared
      · exact .inl (Failure.isOfService_of_isOfCall call)
      · exact .inl unprepared.isOfService
  | describeStackEvents =>
      rcases Stack.Handle.pageIn_error h with call | unprepared
      · exact .inl (Failure.isOfService_of_isOfCall call)
      · exact .inl unprepared.isOfService
  | createCluster | deleteCluster =>
      exact .inl (((Aws.raises_readReply _ _).bind fun _ => Service.raises_readName _ _ _) _ h)
  | describeClusters =>
      exact .inl (((Aws.raises_readReply _ _).bind fun _ => Service.raises_readStatus _ _) _ h)
  | listTasks =>
      exact .inl (((Aws.raises_readReply _ _).bind fun _ => Aws.Answer.raises_elementsOf _ _) _ h)
  | describeTasks =>
      exact .inl (((Aws.raises_readReply _ _).bind fun _ => Aws.raises_responseMember _ _ _ _ _) _ h)
  | describeContainerInstances =>
      exact .inl (((Aws.raises_readReply _ _).bind fun _ => (Aws.Answer.raises_elementsOf _ _).bind
        fun _ => raisesOnly_foldlM Service.raises_readInstance _ _) _ h)
  | describeInstances =>
      exact .inl (((Aws.raises_readReply _ _).bind fun _ => Instances.raises_readReservations _) _ h)
  | resolveImageId =>
      obtain ⟨_, _, -, h⟩ := h
      rcases raisesOnly_readRecommended _ _ _ _ h with service | image
      · exact .inl service
      · exact .inr ⟨rfl, image⟩

theorem not_isOfStack_of_blamed {e : Exchange} {failure : Failure}
    (h : operator.judgement.blamed e failure) : ¬ failure.IsOfStack := by
  obtain ⟨method, cause, faults, rfl⟩ := h
  rcases faults.fails.kind with service | ⟨-, fault, rfl⟩
  · exact (Failure.isOfService_ofCall service _ _).not_isOfStack
  · exact id

theorem Uses.failsOnly {α : Type} {p : Program α} {method : Method} (uses : operator.Uses method p)
    (asked : method ≠ .resolveImageId) {operation resource : String} :
    (p.remotely operation resource).FailsOnly Failure.IsOfService := by
  refine (Program.Halts.failsOnly uses).remotely fun cause known => ?_
  rcases known with no | ⟨e, faults⟩
  · exact no.elim
  · rcases faults.fails.kind with service | ⟨image, -⟩
    · exact Failure.isOfService_ofCall service operation resource
    · exact absurd image asked

/-- The look-up of an image fails as a service does, or because there is no image. -/
theorem failsOnly_find {region : String} (here : operator.config.region.getD "" = region) :
    ((operator.images.find region).remotely "ResolveImageId" region).FailsOnly
      fun failure => failure.IsOfService ∨ ∃ fault, failure = .image fault := by
  refine (operator.halts_find here).failsOnly.remotely fun cause known => ?_
  rcases known with ⟨fault, rfl⟩ | ⟨e, faults⟩
  · exact .inr ⟨fault, rfl⟩
  · rcases faults.fails.kind with service | ⟨-, fault, rfl⟩
    · exact .inl (Failure.isOfService_ofCall service _ _)
    · exact .inr ⟨fault, rfl⟩

variable (operator)

theorem failsOnly_ensure {allowed : Failure → Prop} {condition : Bool} {refusal : Refusal}
    (h : allowed (.refused refusal)) : (ensure condition refusal).FailsOnly allowed := by
  cases condition with
  | true => exact Program.failsOnly_pure ()
  | false => exact Program.failsOnly_fail h

theorem failsOnly_exists : operator.stack.exists?.FailsOnly Failure.IsOfService := by
  have described : operator.stack.status.FailsOnly Failure.IsOfService :=
    operator.uses_status.failsOnly nofun
  refine Program.failsOnly_recover ((described.bind fun _ => Program.failsOnly_pure ()).bind
    fun _ => Program.failsOnly_pure true) fun failure service => ?_
  split
  · split
    · exact Program.failsOnly_pure false
    · exact Program.failsOnly_fail service
  · exact Program.failsOnly_fail service

theorem failsOnly_ensureNetwork {allowed : Failure → Prop} {parameters : Stack.Parameters}
    (h : ∀ refusal, allowed (.refused refusal)) : (ensureNetwork parameters).FailsOnly allowed := by
  unfold ensureNetwork
  split
  · exact Program.failsOnly_fail (h _)
  · exact Program.failsOnly_pure ()

theorem failsOnly_withImage {allowed : Failure → Prop} {parameters : Stack.Parameters}
    (refused : ∀ refusal, allowed (.refused refusal))
    (service : ∀ failure, failure.IsOfService → allowed failure)
    (image : ∀ fault, allowed (.image fault)) : (operator.withImage parameters).FailsOnly allowed := by
  unfold withImage findImage
  split
  · exact Program.failsOnly_pure parameters
  refine Program.FailsOnly.bind ?_ fun _ => Program.failsOnly_pure _
  split
  · exact Program.failsOnly_fail (refused _)
  · rename_i region given
    have here : operator.config.region.getD "" = region := by
      rw [Option.eq_some_of_filter_eq_some given]
      rfl
    refine ((operator.failsOnly_find here).mono fun failure known => ?_).bind fun image =>
      Program.failsOnly_pure image
    rcases known with known | ⟨fault, rfl⟩
    · exact service failure known
    · exact image fault

theorem failsOnly_ensureActive : (operator.ensureActive operator.config.cluster).FailsOnly
    fun failure => ¬ failure.IsOfStack :=
  ((operator.uses_isActive.failsOnly nofun).mono fun _ service => service.not_isOfStack).bind
    fun _ => failsOnly_ensure id

end Operator

end ClusterStack.Cluster
