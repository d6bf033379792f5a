import ClusterStack.Proofs.Cluster.Commands
import ClusterStack.Proofs.Cluster.Listing
import ClusterStack.Proofs.Number.Numerals
import ClusterStack.Proofs.Rehearsals
import ClusterStack.Proofs.Stack.Blame
import ClusterStack.Proofs.Stack.Validation
/-!
# Rejected and failed commands

The kind of a failure tells whether the command has changed anything. A command that is rejected has
changed nothing, since all guards stand before the first change; and the failure of a stack is only
reported after a request about the stack was granted. Programs that are put in a row keep both: what
stands before the first change only reads and does not blame the stack, and what stands after it does
not reject.
-/
namespace ClusterStack

namespace Cluster.Operator

variable (operator : Operator) {α β : Type} {p : Program α}

theorem Barred.not_isOfStack {operator : Operator} {command : Command} {failure : Failure}
    (h : operator.Barred command failure) : ¬ failure.IsOfStack := by
  cases h with
  | creationSize given unread | resizingSize given unread =>
      rcases sizeOfText_error unread with ⟨key, fault, rfl⟩ | ⟨count, -, rfl⟩ <;> exact id
  | _ => exact id

/-- The exchange is a request to create, update or delete a stack that was answered without error. -/
def Grants (e : Exchange) : Prop :=
  e.call.operation ∈ ["create-stack", "update-stack", "delete-stack"] ∧ operator.Sound e

def Careful (p : Program α) : Prop :=
  ∀ es failure, p.Plays es (.failed failure) →
    (failure.IsRejection → changes es = []) ∧
    (failure.IsOfStack → ∃ e ∈ es, operator.Grants e)

/-- A play that comes to a granted request, and no longer rejects, or stops before it at the failure of
a service. -/
inductive Committed (es : List Exchange) : Outcome α → Prop
  | granted {outcome : Outcome α} : (∃ e ∈ es, operator.Grants e) →
      (∀ failure, outcome = .failed failure → ¬ failure.IsRejection) → Committed es outcome
  | broken {failure : Failure} : failure.IsOfService → Committed es (.failed failure)
  | unfinished : Committed es .unfinished

def Commits (p : Program α) : Prop := ∀ es outcome, p.Plays es outcome → operator.Committed es outcome

section

variable {operator}

theorem Commits.not_rejects (h : operator.Commits p) :
    p.FailsOnly fun failure => ¬ failure.IsRejection := by
  intro es failure play
  generalize ending : Outcome.failed failure = outcome at play
  cases h es outcome play with
  | granted grants kept => exact kept failure ending.symm
  | broken service =>
      cases ending
      exact service.not_isRejection
  | unfinished => cases ending

theorem Commits.careful (h : operator.Commits p) : operator.Careful p := by
  intro es failure play
  have kept := h.not_rejects es failure play
  refine ⟨fun rejection => absurd rejection kept, fun blamed => ?_⟩
  generalize ending : Outcome.failed failure = outcome at play
  cases h es outcome play with
  | granted grants => exact grants
  | broken service =>
      cases ending
      exact absurd blamed service.not_isOfStack
  | unfinished => cases ending

theorem careful_bind {f : α → Program β} (reads : p.Does Program.Reads)
    (blameless : p.FailsOnly fun failure => ¬ failure.IsOfStack)
    (rest : ∀ es a, p.Plays es (.done a) → operator.Careful (f a)) : operator.Careful (p >>= f) := by
  intro es failure play
  rcases Program.plays_bind.mp play with
    ⟨a, first, es', rfl, hp, hf⟩ | ⟨cause, hp, same⟩ | ⟨-, same⟩
  · obtain ⟨unchanged, granted⟩ := rest first a hp es' failure hf
    refine ⟨fun rejection => ?_, fun blamed => ?_⟩
    · rw [changes_append, reads.changes_eq_nil hp, unchanged rejection]
      rfl
    · obtain ⟨e, member, grants⟩ := granted blamed
      exact ⟨e, List.mem_append_right first member, grants⟩
  · cases same
    exact ⟨fun _ => reads.changes_eq_nil hp, fun blamed => absurd blamed (blameless es failure hp)⟩
  · cases same

theorem Commits.bind {f : α → Program β} (first : operator.Commits p)
    (rest : ∀ a, (f a).FailsOnly fun failure => ¬ failure.IsRejection) :
    operator.Commits (p >>= f) := by
  intro es outcome play
  rcases Program.plays_bind.mp play with
    ⟨a, es', es'', rfl, hp, hf⟩ | ⟨failure, hp, rfl⟩ | ⟨-, rfl⟩
  · cases first es' _ hp with
    | granted grants kept =>
        obtain ⟨e, member, grants⟩ := grants
        refine .granted ⟨e, List.mem_append_left es'' member, grants⟩ fun failure same => ?_
        rw [same] at hf
        exact rest a es'' failure hf
  · generalize ending : Outcome.failed failure = inner at hp
    cases first es inner hp with
    | granted grants kept =>
        refine .granted grants fun other same => ?_
        cases same
        exact kept failure ending.symm
    | broken service =>
        cases ending
        exact .broken service
    | unfinished => cases ending
  · exact .unfinished

theorem commits_bind {f : α → Program β} (first : p.FailsOnly Failure.IsOfService)
    (rest : ∀ a, operator.Commits (f a)) : operator.Commits (p >>= f) := by
  intro es outcome play
  rcases Program.plays_bind.mp play with
    ⟨a, es', es'', rfl, -, hf⟩ | ⟨failure, hp, rfl⟩ | ⟨-, rfl⟩
  · cases rest a es'' outcome hf with
    | granted grants kept =>
        obtain ⟨e, member, grants⟩ := grants
        exact .granted ⟨e, List.mem_append_right es' member, grants⟩ kept
    | broken service => exact .broken service
    | unfinished => exact .unfinished
  · exact .broken (first es failure hp)
  · exact .unfinished

/-- A request about the stack commits: it is granted if it does not fail. -/
theorem commits_request (method : Method) {call : Invocation} {read : Reply → Except Failure α}
    (asks : p.Asks call read) (uses : operator.Uses method p) (asked : method ≠ .resolveImageId)
    (requests : call.operation ∈ ["create-stack", "update-stack", "delete-stack"]) :
    operator.Commits (p.remotely method.title (operator.resource method)) := by
  intro es outcome play
  cases outcome with
  | done a =>
      obtain ⟨reply, rfl, -⟩ := asks.remotely _ _ _ _ play
      have halts : (p.remotely method.title (operator.resource method)).Halts operator.judgement
        fun _ => False := uses.halts
      have sound := (halts _ _ play).sound_of_done _ (List.mem_singleton_self _)
      exact .granted ⟨_, List.mem_singleton_self _, requests, sound⟩ nofun
  | failed failure => exact .broken (uses.failsOnly asked es failure play)
  | unfinished => exact .unfinished

end

theorem commits_create (body : String) (parameters : Stack.Parameters) :
    operator.Commits (operator.stack.create body parameters) :=
  commits_request .createStack (Stack.Service.asks_submit _ _ _ _ _ _)
    (operator.uses_createStack body parameters) nofun (List.mem_cons_self ..)

theorem commits_update (parameters : Stack.Parameters) :
    operator.Commits (operator.stack.update parameters) :=
  commits_request .updateStack (Stack.Service.asks_submit _ _ _ _ _ _)
    (operator.uses_updateStack parameters) nofun (List.mem_cons_of_mem _ (List.mem_cons_self ..))

theorem commits_delete : operator.Commits operator.stack.delete :=
  commits_request .deleteStack Program.asks_request operator.uses_deleteStack nofun
    (List.mem_cons_of_mem _ (List.mem_cons_of_mem _ (List.mem_cons_self ..)))

theorem commits_removeStack : operator.Commits operator.removeStack := by
  refine operator.commits_delete.bind fun _ => ?_
  exact (operator.stack.failsOnly_awaitDeletion operator.pages).mono
    fun _ blames => blames.not_isRejection

section

variable (readable : operator.template.FailsOnly fun failure => failure.isOfCall = true)

include readable

theorem commits_createStack (parameters : Stack.Parameters) :
    operator.Commits (operator.createStack parameters) := by
  refine commits_bind (readable.remotely fun failure call => ?_) fun body => ?_
  · exact Failure.isOfService_ofCall (Failure.isOfService_of_isOfCall call) _ _
  refine (operator.commits_create body parameters).bind fun id => ?_
  have waits := Stack.Wait.creation.failsOnly_run operator.stack operator.pages
  exact (waits.mono fun _ blames => blames.not_isRejection).bind fun _ => Program.failsOnly_pure id

theorem commits_stack (parameters : Stack.Parameters) (replacing : Bool) :
    operator.Commits (if replacing = true then do
        operator.removeStack
        operator.createStack parameters
      else operator.createStack parameters) := by
  have creates := operator.commits_createStack readable parameters
  cases replacing with
  | false => exact creates
  | true => exact operator.commits_removeStack.bind fun _ => creates.not_rejects

theorem careful_furnish (parameters : Stack.Parameters) (replacing : Bool) :
    operator.Careful (operator.furnish parameters replacing) := by
  refine careful_bind (does_ensure _ _) (failsOnly_ensure id) fun _ _ _ => ?_
  refine careful_bind (does_ensureNetwork _) (failsOnly_ensureNetwork fun _ => id) fun _ _ _ => ?_
  refine careful_bind (operator.reads_withImage _) (operator.failsOnly_withImage (fun _ => id)
    (fun _ service => service.not_isOfStack) fun _ => id) fun _ complete _ => ?_
  refine careful_bind (Program.does_ofExcept _) (Program.failsOnly_ofExcept ?_) fun _ _ _ => ?_
  · intro failure invalid
    obtain ⟨key, -, rfl⟩ := Stack.Parameters.validate_error_iff.mp invalid
    exact id
  refine Commits.careful (commits_bind (operator.uses_createCluster.failsOnly nofun) fun _ => ?_)
  exact operator.commits_stack readable complete replacing

theorem careful_create (o : CreationOptions) : operator.Careful (operator.create o) := by
  intro es failure play
  rcases operator.plays_create_guarded play with
    ⟨rfl, cause, barred, same⟩ | ⟨-, -, size, -, play⟩
  · cases same
    exact ⟨fun _ => rfl, fun blamed => absurd blamed barred.not_isOfStack⟩
  · refine careful_bind (operator.does_ensureRoom _ _) ?_ (fun _ replacing _ => ?_) es failure play
    · exact ((operator.failsOnly_exists.mono fun _ service => service.not_isOfStack).bind
        fun _ => (failsOnly_ensure id).bind fun _ => Program.failsOnly_pure _)
    · exact operator.careful_furnish readable _ replacing

end

theorem careful_onStanding {act : Stack.Handle → Program α}
    (commits : operator.Commits (act operator.stack)) : operator.Careful (operator.onStanding act) := by
  refine careful_bind (operator.does_ensureActive (fun _ _ => trivial) (Service.activeCall_reads _ _))
    operator.failsOnly_ensureActive fun _ _ _ => ?_
  refine careful_bind ?_ ?_ fun es stack found => ?_
  · exact operator.stack.admits_reads.does_exists.bind fun _ => (does_ensure _ _).bind fun _ => trivial
  · exact (operator.failsOnly_exists.mono fun _ service => service.not_isOfStack).bind
      fun _ => (failsOnly_ensure id).bind fun _ => Program.failsOnly_pure _
  · obtain ⟨reply, -, ⟨same, ⟨-, rfl⟩, ending⟩ | ⟨failure, ending⟩⟩ :=
      operator.checks_existingStack _ _ _ found
    · cases ending
      exact commits.careful
    · cases ending

theorem commits_dismantle : operator.Commits (operator.dismantle operator.stack) := by
  refine operator.commits_delete.bind fun _ => ?_
  have waits := (operator.stack.failsOnly_awaitDeletion operator.pages).mono
    fun _ blames => blames.not_isRejection
  refine waits.bind fun _ => ?_
  exact ((operator.uses_deleteCluster.failsOnly nofun).mono
      fun _ service => service.not_isRejection).bind fun _ => Program.failsOnly_pure ()

theorem commits_adjust (size : Nat) : operator.Commits (operator.adjust size operator.stack) :=
  (operator.commits_update _).bind fun _ =>
    (Stack.Wait.update.failsOnly_run operator.stack operator.pages).mono
      fun _ blames => blames.not_isRejection

theorem careful_delete (o : DeletionOptions) : operator.Careful (operator.delete o) := by
  intro es failure play
  rcases operator.plays_delete_guarded play with ⟨rfl, cause, barred, same⟩ | ⟨-, -, play⟩
  · cases same
    exact ⟨fun _ => rfl, fun blamed => absurd blamed barred.not_isOfStack⟩
  · exact operator.careful_onStanding operator.commits_dismantle es failure play

theorem careful_resize (o : ResizeOptions) : operator.Careful (operator.resize o) := by
  intro es failure play
  rcases operator.plays_resize_guarded play with
    ⟨rfl, cause, barred, same⟩ | ⟨-, -, text, size, -, -, play⟩
  · cases same
    exact ⟨fun _ => rfl, fun blamed => absurd blamed barred.not_isOfStack⟩
  · exact operator.careful_onStanding (operator.commits_adjust size) es failure play

theorem careful_list : operator.Careful operator.list := by
  intro es failure play
  refine ⟨fun _ => ?_, fun blamed => ?_⟩
  · exact (operator.does_list.mono fun _ => Lists.reads).changes_eq_nil play
  · rcases operator.halts_list.failsOnly es failure play with blameless | ⟨e, faulty⟩
    · exact absurd blamed blameless
    · exact absurd blamed (not_isOfStack_of_blamed faulty)

theorem careful_perform
    (readable : operator.template.FailsOnly fun failure => failure.isOfCall = true)
    (command : Command) : operator.Careful (operator.perform command) := by
  cases command with
  | creation o => exact operator.careful_create readable o
  | deletion o => exact operator.careful_delete o
  | resizing o => exact operator.careful_resize o
  | listing => exact operator.careful_list

/-- Whatever is replied, a command that is rejected has changed nothing; it has not even made a call
exactly if a guard that asks nothing bars it. A failure of the stack is only reported after a request
about the stack was granted, and a listing changes nothing at all. -/
theorem failure_tells_progress {σ : Type} (config : Config) (images : Image.Source)
    (template : Except Failure String) (pages : Nat)
    (readable : ∀ failure, template = .error failure → failure.isOfCall = true)
    (command : Command) (backend : Backend σ) (s : σ) :
    let operator : Operator := ⟨config, images, .ofExcept template, pages⟩
    let es := (operator.perform command).exchanges backend s
    let outcome := ((operator.perform command).run backend s).outcome
    (∀ failure, outcome = .failed failure → failure.IsRejection → changes es = []) ∧
    (es = [] ↔ ∃ failure, operator.Barred command failure) ∧
    (es = [] → ∃ failure, operator.Barred command failure ∧ outcome = .failed failure) ∧
    (∀ name fault, outcome = .failed (.stack name fault) → ∃ e ∈ es, operator.Grants e) ∧
    (command = .listing → changes es = []) := by
  intro operator es outcome
  have play : (operator.perform command).Plays es outcome := Program.plays_run backend _ s
  have careful := operator.careful_perform (Program.failsOnly_ofExcept readable) command
  refine ⟨fun failure failed rejected => ?_, ?_, fun none => ?_, fun name fault failed => ?_, ?_⟩
  · rw [failed] at play
    exact (careful es failure play).1 rejected
  · rcases operator.plays_perform_guarded play with ⟨none, failure, barred, -⟩ | ⟨some, free⟩
    · exact iff_of_true none ⟨failure, barred⟩
    · exact iff_of_false some fun ⟨failure, barred⟩ => free failure barred
  · rcases operator.plays_perform_guarded play with ⟨-, stops⟩ | ⟨some, -⟩
    · exact stops
    · exact absurd none some
  · rw [failed] at play
    exact (careful es _ play).2 trivial
  · rintro rfl
    exact (operator.does_list.mono fun _ => Lists.reads).changes_eq_nil play

def demoConfig : Config := ⟨"demo", none, none, usualStackPrefix⟩

/-- The update of the stack is granted, and one of its resources fails. -/
def failedResource : Aws.Script := Aws.standing "UPDATE_IN_PROGRESS" ++ [
  ("update-stack", [.answering (.obj [("StackId", .str "id")]) 1]),
  ("describe-stack-events", [.answering
    (.obj [("StackEvents", .arr [.obj [("ResourceStatus", .str "UPDATE_FAILED")]])]) 1])]

theorem failedResource_granted :
    let operator : Operator := ⟨demoConfig, .listed [], .ofExcept (.ok ""), 1⟩
    let resizing : Command := .resizing ⟨true, some "2"⟩
    ((operator.perform resizing).run Aws.scripted failedResource).outcome =
      .failed (.stack "amazon-ecs-cli-setup-demo" (.resourceFailed "UPDATE_COMPLETE" "")) ∧
    ∃ e ∈ (operator.perform resizing).exchanges Aws.scripted failedResource, operator.Grants e := by
  intro operator resizing
  have failed : ((operator.resize ⟨true, some "2"⟩).run Aws.scripted failedResource).outcome =
      .failed (.stack "amazon-ecs-cli-setup-demo" (.resourceFailed "UPDATE_COMPLETE" "")) := by
    decide +kernel
  have told := failure_tells_progress demoConfig (.listed []) (.ok "") 1 nofun resizing Aws.scripted
    failedResource
  exact ⟨failed, told.2.2.2.1 _ _ failed⟩

end Cluster.Operator

end ClusterStack
