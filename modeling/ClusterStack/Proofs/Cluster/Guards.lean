import ClusterStack.Cluster.Creation
import ClusterStack.Proofs.Cluster.Calls
import ClusterStack.Proofs.Stack.Calls
/-!
# Guards of the commands

A command goes on after a guard only if the guard passes. What a guard asks, and by which replies it
passes, is told here once for all commands.
-/
namespace ClusterStack.Cluster

namespace Operator

variable {α : Type} {es : List Exchange}

theorem plays_ensure {condition : Bool} {refusal : Refusal} {outcome : Outcome Unit}
    (h : (ensure condition refusal).Plays es outcome) :
    es = [] ∧ ((condition = true ∧ outcome = .done ()) ∨ ∃ failure, outcome = .failed failure) := by
  cases condition with
  | true =>
      obtain ⟨rfl, rfl⟩ := h
      exact ⟨rfl, .inl ⟨rfl, rfl⟩⟩
  | false =>
      obtain ⟨rfl, rfl⟩ := h
      exact ⟨rfl, .inr ⟨_, rfl⟩⟩

theorem plays_ensure_bind {condition : Bool} {refusal : Refusal} {f : Unit → Program α}
    {outcome : Outcome α} (h : (ensure condition refusal >>= f).Plays es outcome) :
    (condition = false ∧ es = [] ∧ outcome = .failed (.refused refusal)) ∨
      (condition = true ∧ (f ()).Plays es outcome) := by
  cases condition with
  | true => exact .inr ⟨rfl, h⟩
  | false => exact .inl ⟨rfl, h⟩

variable (operator : Operator)

theorem plays_chosenName_bind {f : String → Program α} {outcome : Outcome α}
    (h : (operator.chosenName >>= f).Plays es outcome) :
    (operator.config.cluster = "" ∧ es = [] ∧ outcome = .failed (.refused .clusterNotNamed)) ∨
      (operator.config.cluster ≠ "" ∧ (f operator.config.cluster).Plays es outcome) := by
  unfold chosenName at h
  by_cases named : operator.config.cluster = ""
  · rw [bne_eq_false_iff_eq.mpr named] at h
    exact .inl ⟨named, h⟩
  · rw [bne_iff_ne.mpr named] at h
    exact .inr ⟨named, h⟩

theorem checks_ensureActive (cluster : String) :
    (operator.ensureActive cluster).Checks (Service.activeCall operator.access cluster)
      fun reply _ => Service.ReportsActive reply := by
  refine ((Service.checks_isActive _ cluster).remotely _ _).andThen
    fun reply active reports es outcome h => ?_
  obtain ⟨rfl, ⟨passed, rfl⟩ | failed⟩ := plays_ensure h
  · exact ⟨rfl, .inl ⟨(), reports passed, rfl⟩⟩
  · exact ⟨rfl, .inr failed⟩

theorem checks_existingStack (cluster : String) :
    (operator.existingStack cluster).Checks operator.stack.statusCall fun reply stack =>
      operator.stack.presenceIn reply = .existing ∧ stack = operator.stack := by
  refine operator.stack.checks_exists.andThen fun reply found presence es outcome h => ?_
  rcases plays_ensure_bind h with ⟨-, rfl, rfl⟩ | ⟨rfl, rfl, rfl⟩
  · exact ⟨rfl, .inr ⟨_, rfl⟩⟩
  · exact ⟨rfl, .inl ⟨_, ⟨presence, rfl⟩, rfl⟩⟩

theorem silent_ensureNetwork (parameters : Stack.Parameters) : (ensureNetwork parameters).Silent := by
  unfold ensureNetwork
  split
  · exact Program.silent_ofExcept (.error _)
  · exact Program.silent_ofExcept (.ok ())

theorem checks_ensureRoom (cluster : String) (force : Bool) :
    (operator.ensureRoom cluster force).Checks operator.stack.statusCall fun reply replacing =>
      operator.stack.presenceIn reply = (if replacing then .existing else .missing) ∧
        (replacing = true → force = true) := by
  refine operator.stack.checks_exists.andThen fun reply found presence es outcome h => ?_
  rcases plays_ensure_bind h with ⟨-, rfl, rfl⟩ | ⟨room, rfl, rfl⟩
  · exact ⟨rfl, .inr ⟨_, rfl⟩⟩
  · refine ⟨rfl, .inl ⟨found, ⟨presence, ?_⟩, rfl⟩⟩
    rintro rfl
    exact room

/-- The call looks up an image for the region. -/
inductive LooksUp (region : String) : Image.Source → Invocation → Prop
  | recommended (instanceType profile : Option String) (parameter : String) :
      LooksUp region (.recommended instanceType profile) ((Aws.Access.mk (some region) profile).invocation
        "ssm" "get-parameter" [.str "--name", .str parameter])

theorem LooksUp.operation {region : String} {images : Image.Source} {call : Invocation}
    (h : LooksUp region images call) : call.operation = "get-parameter" := by
  cases h
  rfl

section

variable {allowed : Action → Prop} (notes : ∀ level message, allowed (.logged level message))

include notes

theorem does_find {images : Image.Source} {region : String}
    (asks : ∀ call, LooksUp region images call → allowed (.invoked call)) :
    (images.find region).Does allowed := by
  cases images with
  | listed table =>
      simp only [Image.Source.find]
      split <;> trivial
  | recommended instanceType profile =>
      refine Program.Does.bind ?_ fun parameter => ?_
      · unfold Image.chooseParameter
        dsimp only
        split
        · exact ⟨notes _ _, trivial⟩
        · trivial
      · exact Program.does_request (asks _ (.recommended instanceType profile parameter))

theorem does_withImage (asks : ∀ region call, nonempty? operator.config.region = some region →
    LooksUp region operator.images call → allowed (.invoked call)) (parameters : Stack.Parameters) :
    (operator.withImage parameters).Does allowed := by
  unfold withImage findImage
  split
  · trivial
  · refine Program.Does.bind ?_ fun _ => trivial
    split
    · trivial
    · rename_i region given
      have found := does_find notes fun call => asks region call given
      exact (found.remotely _ _).bind fun _ => ⟨notes _ _, trivial⟩

end

theorem reads_withImage (parameters : Stack.Parameters) :
    (operator.withImage parameters).Does Program.Reads := by
  refine operator.does_withImage (fun _ _ => trivial) (fun region call _ asks => ?_) parameters
  change call.operation ∈ readings
  rw [asks.operation]
  decide

theorem does_ensure {allowed : Action → Prop} (condition : Bool) (refusal : Refusal) :
    (ensure condition refusal).Does allowed := by
  cases condition <;> trivial

theorem does_ensureRoom (cluster : String) (force : Bool) :
    (operator.ensureRoom cluster force).Does Program.Reads :=
  operator.stack.admits_reads.does_exists.bind fun _ => (does_ensure _ _).bind fun _ => trivial

theorem does_ensureNetwork {allowed : Action → Prop} (parameters : Stack.Parameters) :
    (ensureNetwork parameters).Does allowed := by
  unfold ensureNetwork
  split <;> trivial

theorem does_ensureActive {allowed : Action → Prop}
    (notes : ∀ level message, allowed (.logged level message))
    (asks : allowed (.invoked (Service.activeCall operator.access operator.config.cluster))) :
    (operator.ensureActive operator.config.cluster).Does allowed := by
  refine Program.Does.bind (Program.Does.remotely _ _ ?_) fun _ => does_ensure _ _
  refine Program.Does.bind (Program.does_request asks) fun status => ?_
  cases status with
  | none => trivial
  | some status =>
      dsimp only
      split
      · trivial
      · exact ⟨notes _ _, trivial⟩

end Operator

end ClusterStack.Cluster
