import ClusterStack.Proofs.Cluster.Listing
import ClusterStack.Proofs.Cluster.Stages
/-!
# Quiet parts of a run

What a command does between its requests about the stack is quiet: it asks nothing about the stack, so
that the run stays in its stage, and no fault in it is excused.
-/
namespace ClusterStack.Cluster

theorem Method.operation_of? {call : Invocation} {method : Method} (h : Method.of? call = some method) :
    call.operation = method.operation := by
  have found := List.find?_some h
  exact (beq_iff_eq.mp found).symm

def aboutStack : List String :=
  ["create-stack", "update-stack", "delete-stack", "describe-stacks", "describe-stack-events"]

def Calm : Action → Prop
  | .invoked call => call.operation ∉ aboutStack
  | _ => True

theorem Lists.calm {action : Action} (h : Lists action) : Calm action := by
  cases action with
  | invoked call =>
      have others : ∀ operation ∈ ["describe-clusters", "list-tasks", "describe-tasks",
        "describe-container-instances", "describe-instances"], operation ∉ aboutStack := by decide
      exact others _ h
  | _ => trivial

namespace Operator

variable {operator : Operator} {α β : Type}
  {resumes : Stage → List Exchange → Outcome α → Prop} {stage : Stage} {es : List Exchange}
  {outcome : Outcome α}

theorem advance_calm {e : Exchange} (calm : Calm (.invoked e.call)) : operator.advance stage e = stage := by
  unfold advance
  cases called : Method.of? e.call with
  | none => rfl
  | some method =>
      have operation := Method.operation_of? called
      change e.call.operation ∉ aboutStack at calm
      rw [operation] at calm
      cases method <;> first | rfl | exact absurd (by decide) calm

theorem not_excuses_calm {e : Exchange} {method : Method} {cause : Failure}
    (faults : operator.Faults method e cause) (calm : Calm (.invoked e.call)) :
    ¬ stage.Excuses method cause := by
  intro excused
  change e.call.operation ∉ aboutStack at calm
  rw [Method.operation_of? faults.calls] at calm
  rcases excused.polls with rfl | rfl
  · exact calm (by decide)
  · exact calm (by decide)

variable (operator) in
/-- The program asks nothing about the stack, and stops at its first fault. -/
structure Quiet (p : Program β) : Prop where
  halts : p.Halts operator.judgement fun _ => True
  does : p.Does Calm

theorem Quiet.bind {γ : Type} {p : Program β} {f : β → Program γ} (quiet : operator.Quiet p)
    (rest : ∀ b, operator.Quiet (f b)) : operator.Quiet (p >>= f) :=
  ⟨quiet.halts.bind fun b => (rest b).halts, quiet.does.bind fun b => (rest b).does⟩

theorem foldl_advance_calm (calm : ∀ e ∈ es, Calm (.invoked e.call)) :
    es.foldl operator.advance stage = stage :=
  foldl_advance fun e member => advance_calm (calm e member)

theorem abides_halted {own : Failure → Prop} {inner : Outcome β}
    (halted : Halted operator.judgement own es inner) (calm : ∀ e ∈ es, Calm (.invoked e.call))
    (same : ∀ failure, inner = .failed failure → outcome = .failed failure) :
    operator.Abides resumes stage es outcome := by
  cases halted with
  | sound all _ =>
      rw [← List.append_nil es]
      exact abides_append all abides_nil
  | @fault before e failure all blamed =>
      obtain ⟨method, cause, faults, rfl⟩ := blamed
      have last := calm e (List.mem_append_right _ (List.mem_singleton_self e))
      refine abides_append all (abides_fault faults (fun _ => ⟨rfl, same _ rfl⟩) fun excused => ?_)
      exact absurd excused (not_excuses_calm faults last)

theorem Quiet.abides {p : Program α} (quiet : operator.Quiet p) (h : p.Plays es outcome) :
    operator.Abides resumes stage es outcome :=
  abides_halted (quiet.halts es outcome h) (quiet.does.plays h) fun _ same => same

/-- The stage is the same after a quiet part of a run. -/
theorem Quiet.abides_bind {p : Program β} {f : β → Program α} (quiet : operator.Quiet p)
    (h : (p >>= f).Plays es outcome)
    (rest : ∀ b es', (f b).Plays es' outcome → operator.Abides resumes stage es' outcome) :
    operator.Abides resumes stage es outcome := by
  rcases Program.plays_bind.mp h with ⟨b, first, after, rfl, hp, hf⟩ | ⟨failure, hp, rfl⟩ | ⟨hp, rfl⟩
  · refine abides_append (quiet.halts first _ hp).sound_of_done ?_
    rw [foldl_advance_calm (quiet.does.plays hp)]
    exact rest b after hf
  · refine abides_halted (quiet.halts es _ hp) (quiet.does.plays hp) fun _ same => ?_
    cases same
    rfl
  · exact abides_halted (quiet.halts es _ hp) (quiet.does.plays hp) nofun

theorem quiet_ofExcept (e : Except Failure β) : operator.Quiet (Program.ofExcept e) :=
  ⟨Program.halts_ofExcept e fun _ _ => trivial, Program.does_ofExcept e⟩

theorem quiet_ensure (condition : Bool) (refusal : Refusal) :
    operator.Quiet (ensure condition refusal) :=
  ⟨operator.halts_ensure trivial, does_ensure condition refusal⟩

variable (operator)

theorem quiet_ensureActive : operator.Quiet (operator.ensureActive operator.config.cluster) :=
  ⟨operator.halts_ensureActive trivial, operator.does_ensureActive (fun _ _ => trivial)
    (by change "describe-clusters" ∉ aboutStack; decide)⟩

theorem quiet_ensureNetwork (parameters : Stack.Parameters) :
    operator.Quiet (ensureNetwork parameters) := by
  unfold ensureNetwork
  split
  · exact quiet_ofExcept (.error _)
  · exact quiet_ofExcept (.ok ())

theorem quiet_withImage (parameters : Stack.Parameters) :
    operator.Quiet (operator.withImage parameters) := by
  refine ⟨?_, operator.does_withImage (fun _ _ => trivial) (fun _ call _ asks => ?_) parameters⟩
  · unfold withImage findImage
    split
    · exact Program.halts_pure parameters
    refine Program.Halts.bind ?_ fun _ => Program.halts_pure _
    split
    · exact Program.halts_fail trivial
    · rename_i region given
      obtain rfl : operator.config.region.getD "" = region := by
        rw [Option.eq_some_of_filter_eq_some given]
        rfl
      refine Program.Halts.bind ?_ fun image => Program.halts_pure image
      exact operator.halts_remotely .resolveImageId (operator.halts_find rfl) fun _ _ => trivial
  · change call.operation ∉ aboutStack
    rw [asks.operation]
    decide

theorem quiet_createCluster :
    operator.Quiet ((Service.create operator.access operator.config.cluster).remotely "CreateCluster"
      operator.config.cluster) := by
  refine ⟨Uses.halts operator operator.uses_createCluster, Program.Does.remotely _ _ ?_⟩
  refine Program.Does.bind (Program.does_request ?_) fun _ => ⟨trivial, trivial⟩
  change "create-cluster" ∉ aboutStack
  decide

theorem quiet_list : operator.Quiet operator.list := by
  refine ⟨?_, operator.does_list.mono fun _ => Lists.calm⟩
  intro es outcome h
  cases operator.halts_list es outcome h with
  | sound all _ => exact .sound all fun _ _ => trivial
  | fault before all blamed => exact .fault before all blamed

end Operator

end ClusterStack.Cluster
