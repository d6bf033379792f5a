import ClusterStack.Proofs.Cluster.DeletionOrder
import ClusterStack.Proofs.Cluster.Leftovers
import ClusterStack.Proofs.Cluster.Submission
import ClusterStack.Proofs.Executions
/-!
# Deleting what a failed creation left

A deletion starts with the stack. Where a failed creation left one, a deletion takes the stack and the
cluster away, provided that the services do as they are asked. Where it left a cluster alone, the
deletion is refused for want of the stack, and the cluster stays.
-/
namespace ClusterStack

/-- A script without a cue to change to gives the same replies for ever. -/
theorem Aws.scripted_kept {script : Script} (single : ∀ entry ∈ script, entry.2.length ≤ 1)
    (call : Invocation) : (scripted script call).2 = script := by
  change (nextReply call.operation script).2 = script
  induction script with
  | nil => rfl
  | cons entry rest ih =>
      obtain ⟨name, cues⟩ := entry
      obtain ⟨first, others⟩ := List.forall_mem_cons.mp single
      unfold nextReply
      split
      · match cues, first with
        | [], _ => rfl
        | [cue], _ => rfl
      · exact congrArg ((name, cues) :: ·) (ih others)

theorem Program.state_of_kept {σ α : Type} (backend : Backend σ) (p : Program α) {s : σ}
    (kept : ∀ call, (backend s call).2 = s) : (p.run backend s).state = s := by
  rw [state_run]
  induction p.exchanges backend s with
  | nil => rfl
  | cons e rest ih => rw [List.foldl_cons, kept, ih]

namespace Stack

/-- The look tells that the stack is gone. -/
inductive Finding.IsGone : Finding → Prop
  | complete : IsGone .complete
  | eventsUnknown {cause : Failure} : cause.isAbsenceOfStack = true → IsGone (.eventsUnknown cause)
  | statusUnknown {cause : Failure} : cause.isAbsenceOfStack = true → IsGone (.statusUnknown cause)

/-- A wait for a deletion is over with the first look that tells that the stack is gone. -/
theorem awaitDeletion_gone {σ : Type} (stack : Handle) (pages : Nat) (backend : Backend σ) (s : σ)
    {i : Nat} (below : i < Wait.deletion.attempts)
    (earlier : ∀ j < i, (Wait.deletion.foundAt stack backend s j).IsPending)
    (gone : (Wait.deletion.foundAt stack backend s i).IsGone) :
    let run := (stack.awaitDeletion pages).run backend s
    let before := Wait.beforeLook stack backend s i
    run.outcome = .done () ∧ (run.state = Wait.afterEvents stack backend before ∨
      run.state = Wait.afterStatus stack backend before) := by
  intro run before
  obtain ⟨attempt, left, hrun⟩ := Wait.deletion.bare_run_from stack pages backend s i below earlier
  have settled := bare_run_await .deletion stack pages backend s
  change run.bare = { ((Wait.deletion.run stack pages).run backend s).bare with
    outcome := Operation.deletion.settled
      ((Wait.deletion.run stack pages).run backend s).bare.outcome } at settled
  rw [hrun, Wait.bare_run_looks] at settled
  have ended := congrArg Run.outcome settled
  have left := congrArg Run.state settled
  change run.outcome = _ at ended
  change run.state = _ at left
  rw [ended, left]
  change (Wait.deletion.found stack backend before).IsGone at gone
  generalize Wait.deletion.found stack backend before = finding at gone
  cases gone with
  | complete => exact ⟨rfl, .inr rfl⟩
  | eventsUnknown absent => exact ⟨Operation.settled_gone absent _ _, .inl rfl⟩
  | statusUnknown absent => exact ⟨Operation.settled_gone absent _ _, .inr rfl⟩

theorem Handle.existsIn_of_presence {stack : Handle} {reply : Reply} {found : Bool}
    (h : stack.presenceIn reply = if found then .existing else .missing) :
    stack.existsIn reply = .ok found := by
  unfold presenceIn at h
  unfold existsIn
  cases read : stack.statusIn reply with
  | ok status =>
      simp only [read] at h
      cases found with
      | true => rfl
      | false => cases h
  | error cause =>
      simp only [read] at h ⊢
      by_cases absent : cause.isAbsenceOfStack = true
      · rw [if_pos absent] at h ⊢
        cases found with
        | true => cases h
        | false => rfl
      · rw [if_neg absent] at h
        cases found <;> cases h

end Stack

namespace Cluster

theorem Service.holdsCluster_of_isOk {operation cluster : String} {reply : Reply}
    (named : (nameIn operation cluster reply).isOk = true) : HoldsCluster operation reply := by
  cases read : nameIn operation cluster reply with
  | error cause =>
      rw [read] at named
      cases named
  | ok name => exact holdsCluster read

/-- How a stack stands: it exists, it is being deleted and gone after some more looks at it, or there is
none. -/
inductive Scene
  | standing
  | leaving (looks : Nat)
  | absent
  deriving DecidableEq

namespace Operator

variable (operator : Operator) {τ : Type}

/-- Services that do as they are asked. The cluster is active, the stack can be described exactly if it
exists, and a deletion is accepted and complete within the looks of the wait for it. Which states of the
services show which scene is up to them. -/
structure Obliging (services : Backend τ) (shows : Scene → τ → Prop) : Prop where
  active {scene : Scene} {t : τ} : shows scene t →
    Service.ReportsActive (services t (Service.activeCall operator.access operator.config.cluster)).1 ∧
    shows scene (services t (Service.activeCall operator.access operator.config.cluster)).2
  standing {t : τ} : shows .standing t →
    operator.stack.presenceIn (services t operator.stack.statusCall).1 = .existing ∧
    shows .standing (services t operator.stack.statusCall).2
  absent {t : τ} : shows .absent t →
    operator.stack.presenceIn (services t operator.stack.statusCall).1 = .missing
  deletes {t : τ} : shows .standing t →
    Stack.Handle.Accepted (services t operator.stack.deletionCall).1 ∧
    ∃ looks < Stack.Wait.deletion.attempts,
      shows (.leaving looks) (services t operator.stack.deletionCall).2
  leaves {t : τ} {looks : Nat} : shows (.leaving (looks + 1)) t →
    (Stack.Wait.deletion.found operator.stack services t).IsPending ∧
    shows (.leaving looks) (Stack.Wait.afterStatus operator.stack services t)
  gone {t : τ} : shows (.leaving 0) t →
    (Stack.Wait.deletion.found operator.stack services t).IsGone ∧
    shows (.leaving 0) (Stack.Wait.afterEvents operator.stack services t) ∧
    shows (.leaving 0) (Stack.Wait.afterStatus operator.stack services t)
  removes {t : τ} : shows (.leaving 0) t → Service.HoldsCluster "delete-cluster"
    (services t (Service.removalCall operator.access operator.config.cluster)).1

section

variable {operator} {services : Backend τ} {shows : Scene → τ → Prop} {t : τ}

theorem Obliging.looks (obliging : operator.Obliging services shows) {looks : Nat}
    (shown : shows (.leaving looks) t) :
    (∀ j < looks, (Stack.Wait.deletion.foundAt operator.stack services t j).IsPending) ∧
      shows (.leaving 0) (Stack.Wait.beforeLook operator.stack services t looks) := by
  induction looks generalizing t with
  | zero => exact ⟨fun j below => absurd below (Nat.not_lt_zero j), shown⟩
  | succ looks ih =>
      obtain ⟨pending, less⟩ := obliging.leaves shown
      obtain ⟨later, last⟩ := ih less
      refine ⟨fun j below => ?_, last⟩
      cases j with
      | zero => exact pending
      | succ j => exact later j (Nat.lt_of_succ_lt_succ below)

theorem Obliging.leads_awaitDeletion (obliging : operator.Obliging services shows) {looks : Nat}
    (few : looks < Stack.Wait.deletion.attempts) (shown : shows (.leaving looks) t) (pages : Nat) :
    ∃ es t', (operator.stack.awaitDeletion pages).Leads services t es (.done ()) t' ∧
      shows (.leaving 0) t' := by
  obtain ⟨pending, last⟩ := obliging.looks shown
  obtain ⟨gone, afterEvents, afterStatus⟩ := obliging.gone last
  obtain ⟨ended, left⟩ := Stack.awaitDeletion_gone operator.stack pages services t few pending gone
  refine ⟨_, _, ⟨rfl, ended, rfl⟩, ?_⟩
  rcases left with left | left
  · rw [left]
    exact afterEvents
  · rw [left]
    exact afterStatus

/-- The reply of the services to a call. -/
def replyTo (services : Backend τ) (t : τ) (call : Invocation) : Exchange :=
  ⟨call, (services t call).1⟩

theorem Obliging.leads_ensureActive (obliging : operator.Obliging services shows) {scene : Scene}
    (shown : shows scene t) :
    let call := Service.activeCall operator.access operator.config.cluster
    (operator.ensureActive operator.config.cluster).Leads services t [replyTo services t call]
      (.done ()) (services t call).2 := by
  have asked := (operator.asks_isActive.remotely "DescribeClusters" operator.config.cluster).leads
    services t
  rw [Service.statusIn_active (obliging.active shown).1] at asked
  exact asked.bind (Program.leads_pure ())

theorem leads_existingStack (found : Bool)
    (presence : operator.stack.presenceIn (services t operator.stack.statusCall).1 =
      if found then .existing else .missing) :
    (operator.existingStack operator.config.cluster).Leads services t
      [replyTo services t operator.stack.statusCall]
      (if found then .done operator.stack
        else .failed (.refused (.stackNotFound operator.config.cluster)))
      (services t operator.stack.statusCall).2 := by
  have asked := operator.stack.asks_exists.leads services t
  rw [Stack.Handle.existsIn_of_presence presence] at asked
  cases found with
  | true => exact asked.bind ((Program.leads_pure ()).bind (Program.leads_pure operator.stack))
  | false => exact asked.bind (Program.leads_fail _).bind_failed

theorem leads_delete (accepted : Stack.Handle.Accepted (services t operator.stack.deletionCall).1) :
    operator.stack.delete.Leads services t [replyTo services t operator.stack.deletionCall] (.done ())
      (services t operator.stack.deletionCall).2 := by
  have asks : operator.stack.delete.Asks operator.stack.deletionCall fun reply =>
      ((Aws.readReply "delete-stack" reply).bind fun _ => .ok ()).mapError
        (Failure.ofCall "DeleteStack" operator.stack.name) := Program.asks_request.remotely _ _
  have asked := asks.leads services t
  obtain ⟨answer, answered⟩ := accepted
  rw [answered] at asked
  exact asked

theorem leads_removeCluster (holds : Service.HoldsCluster "delete-cluster"
    (services t (Service.removalCall operator.access operator.config.cluster)).1) :
    let call := Service.removalCall operator.access operator.config.cluster
    (operator.removeCluster).Leads services t [replyTo services t call] (.done ())
      (services t call).2 := by
  intro call
  have asked := ((Service.asks_delete operator.access operator.config.cluster).remotely
    "DeleteCluster" operator.config.cluster).leads services t
  obtain ⟨name, named⟩ := Service.nameIn_ok operator.config.cluster holds
  rw [named] at asked
  exact asked.bind (Program.leads_pure ())

theorem delete_eq (named : operator.config.cluster ≠ "") :
    operator.delete ⟨true⟩ = operator.onStanding operator.dismantle := by
  unfold delete chosenName
  rw [bne_iff_ne.mpr named]
  rfl

/-- A deletion goes through to the cluster if there is a stack to start with. -/
theorem Obliging.leads_deletion (obliging : operator.Obliging services shows)
    (named : operator.config.cluster ≠ "") (shown : shows .standing t) :
    ∃ es t', (operator.delete ⟨true⟩).Leads services t es (.done ()) t' ∧
      "delete-cluster" ∈ changes es := by
  rw [delete_eq named]
  obtain ⟨-, shown₁⟩ := obliging.active shown
  obtain ⟨existing, shown₂⟩ := obliging.standing shown₁
  obtain ⟨accepted, looks, few, shown₃⟩ := obliging.deletes shown₂
  obtain ⟨during, t₄, waited, shown₄⟩ := obliging.leads_awaitDeletion few shown₃ operator.pages
  have removed := leads_removeCluster (obliging.removes shown₄)
  have dismantled : (operator.dismantle operator.stack).Leads services _ (_ ++ ([] ++ (during ++ _)))
      (.done ()) _ := (leads_delete accepted).bind ((Program.leads_note _ _).bind (waited.bind removed))
  have deleted : (operator.onStanding operator.dismantle).Leads services t (_ ++ (_ ++ _)) (.done ())
      _ := (obliging.leads_ensureActive shown).bind ((leads_existingStack true existing).bind dismantled)
  have made := mem_changes (List.mem_singleton_self (replyTo services t₄
    (Service.removalCall operator.access operator.config.cluster))) (Service.removalCall_changes _ _)
  refine ⟨_, _, deleted, ?_⟩
  simp only [changes_append]
  exact List.mem_append_right _ (List.mem_append_right _ (List.mem_append_right _
    (List.mem_append_right _ (List.mem_append_right _ made))))

/-- Without a stack a deletion is refused and changes nothing. -/
theorem Obliging.leads_refusal (obliging : operator.Obliging services shows)
    (named : operator.config.cluster ≠ "") (shown : shows .absent t) :
    ∃ es t', (operator.delete ⟨true⟩).Leads services t es
      (.failed (.refused (.stackNotFound operator.config.cluster))) t' ∧ changes es = [] := by
  rw [delete_eq named]
  obtain ⟨-, shown₁⟩ := obliging.active shown
  have refused : (operator.onStanding operator.dismantle).Leads services t (_ ++ _) (.failed _) _ :=
    (obliging.leads_ensureActive shown).bind
      (leads_existingStack false (obliging.absent shown₁)).bind_failed
  refine ⟨_, _, refused, ?_⟩
  rw [changes_append, changes_cons_of_reading (Service.activeCall_reads _ _),
    changes_cons_of_reading operator.stack.statusCall_reads]
  rfl

end

/-- Whatever a creation failed for after its cluster was created, a deletion takes away what it left if
it left a stack, and the services do as they are asked. If it left the cluster alone, since its template
could not be read or the creation of the stack was turned down, the deletion is refused for want of a
stack and changes nothing. -/
theorem deletion_cleans_up_stack {σ τ : Type} (config : Config) (images : Image.Source)
    (template : Except Failure String) (pages : Nat) (o : CreationOptions) (backend : Backend σ) (s : σ)
    (failure : Failure) (services : Backend τ) (shows : Scene → τ → Prop) (t : τ) :
    let operator : Operator := ⟨config, images, .ofExcept template, pages⟩
    let creation := operator.create o
    let deletion := operator.delete ⟨true⟩
    let es := creation.exchanges backend s
    FoundsCluster es → (creation.run backend s).outcome = .failed failure →
    operator.Obliging services shows → (operator.LeavesStack es → shows .standing t) →
    (¬ operator.LeavesStack es → shows .absent t) →
    (operator.LeavesStack es → (deletion.run services t).outcome = .done () ∧
      "delete-cluster" ∈ changes (deletion.exchanges services t)) ∧
    (¬ operator.LeavesStack es → operator.LacksStack template es failure ∧
      (deletion.run services t).outcome = .failed (.refused (.stackNotFound config.cluster)) ∧
      changes (deletion.exchanges services t) = []) := by
  intro operator creation deletion es founded failed obliging standing absent
  have play : creation.Plays es _ := Program.plays_run backend creation s
  rw [failed] at play
  obtain ⟨named, left⟩ := plays_create_failed rfl play founded
  refine ⟨fun leaves => ?_, fun bare => ⟨left.resolve_left bare, ?_⟩⟩
  · obtain ⟨es', t', leads, made⟩ := obliging.leads_deletion named (standing leaves)
    rw [← leads.through] at made
    exact ⟨leads.ending, made⟩
  · obtain ⟨es', t', leads, none⟩ := obliging.leads_refusal named (absent bare)
    rw [← leads.through] at none
    exact ⟨leads.ending, none⟩

/-- Whether a call of this operation is answered with something that can be read. -/
def answered {α : Type} (es : List Exchange) (operation : String) (read : Reply → Except Failure α) :
    Bool :=
  es.any fun e => e.call.operation == operation && (read e.reply).isOk

theorem answered_iff {α : Type} {es : List Exchange} {operation : String}
    {read : Reply → Except Failure α} :
    answered es operation read = true ↔
      ∃ e ∈ es, e.call.operation = operation ∧ (read e.reply).isOk = true := by
  simp only [answered, List.any_eq_true, Bool.and_eq_true, beq_iff_eq]

def demoOperator : Operator :=
  ⟨⟨"demo", some "us-east-1", none, usualStackPrefix⟩, .listed Image.usualTable, .ofExcept (.ok ""), 1⟩

/-- The creation of the stack is answered, but what becomes of it cannot be seen. -/
def unseenStack : Aws.Script := freshCluster ++ [
  ("create-stack", [.answering (.obj [("StackId", .str "id")]) 1]),
  ("describe-stack-events", [.refusing
    "An error occurred (AccessDenied) when calling the DescribeStackEvents operation: no"])]

theorem foundsCluster_of_answered {es : List Exchange} {cluster : String}
    (founding : answered es "create-cluster" (Service.nameIn "create-cluster" cluster) = true) :
    FoundsCluster es := by
  obtain ⟨e, member, creates, answers⟩ := answered_iff.mp founding
  exact ⟨e, member, creates, Service.holdsCluster_of_isOk answers⟩

/-- Services that do as they are asked, by how the stack stands alone. -/
def yielding : Backend Scene := fun scene call =>
  let answering (v : Json) : Reply := (Aws.Cue.answering v 1).reply
  let status (status : String) : Reply :=
    answering (.obj [("Stacks", .arr [.obj [("StackStatus", .str status)]])])
  match call.operation, scene with
  | "describe-clusters", scene =>
    (answering (.obj [("clusters", .arr [.obj [("status", .str "ACTIVE")]])]), scene)
  | "describe-stack-events", scene => (answering (.obj [("StackEvents", .arr [.obj []])]), scene)
  | "describe-stacks", .standing => (status "CREATE_COMPLETE", .standing)
  | "describe-stacks", .leaving (looks + 1) => (status "DELETE_IN_PROGRESS", .leaving looks)
  | "describe-stacks", .leaving 0 => (status "DELETE_COMPLETE", .leaving 0)
  | "delete-stack", .standing => (Aws.silence, .leaving 1)
  | "delete-cluster", scene => (answering (.obj [("cluster", .obj [])]), scene)
  | _, scene => (Aws.silence, scene)

/-- The scenes that a deletion by these services goes through. -/
def Scene.Occurs (scene : Scene) (t : Scene) : Prop :=
  t = scene ∧ scene ∈ [.standing, .leaving 1, .leaving 0]

theorem obliging_yielding : demoOperator.Obliging yielding Scene.Occurs := by
  have active : (Service.statusIn "demo" (yielding .standing
      (Service.activeCall demoOperator.access "demo")).1).map Service.tellsActive = .ok true := by
    decide +kernel
  have existing : demoOperator.stack.presenceIn (yielding .standing
      demoOperator.stack.statusCall).1 = .existing := by decide +kernel
  have pending : Stack.Wait.deletion.found demoOperator.stack yielding (.leaving 1) =
      .pending "DELETE_IN_PROGRESS" := by decide +kernel
  have complete : Stack.Wait.deletion.found demoOperator.stack yielding (.leaving 0) = .complete := by
    decide +kernel
  have removed : (Service.nameIn "delete-cluster" "demo" (yielding (.leaving 0)
      (Service.removalCall demoOperator.access "demo")).1).isOk = true := by decide +kernel
  constructor
  · rintro scene t ⟨rfl, member⟩
    exact ⟨Service.reportsActive_iff.mpr active, rfl, member⟩
  · rintro t ⟨rfl, member⟩
    exact ⟨existing, rfl, member⟩
  · rintro t ⟨rfl, member⟩
    exact absurd member (by decide)
  · rintro t ⟨rfl, -⟩
    exact ⟨⟨[], rfl⟩, 1, by decide, rfl, by decide⟩
  · rintro t looks ⟨rfl, member⟩
    cases looks with
    | zero =>
        rw [pending]
        exact ⟨trivial, rfl, by decide⟩
    | succ looks => simp at member
  · rintro t ⟨rfl, member⟩
    rw [complete]
    exact ⟨.complete, ⟨rfl, member⟩, rfl, member⟩
  · rintro t ⟨rfl, -⟩
    exact Service.holdsCluster_of_isOk removed

theorem unseenStack_cleaned_up :
    let creation := demoOperator.create threeInstances
    let deletion := demoOperator.delete ⟨true⟩
    let es := creation.exchanges Aws.scripted unseenStack
    FoundsCluster es ∧ demoOperator.LeavesStack es ∧
    (∃ failure, (creation.run Aws.scripted unseenStack).outcome = .failed failure) ∧
    (deletion.run yielding .standing).outcome = .done () ∧
    "delete-cluster" ∈ changes (deletion.exchanges yielding .standing) := by
  intro creation deletion es
  obtain ⟨failed, founding, creating⟩ : (creation.run Aws.scripted unseenStack).outcome =
      .failed (.remote "DescribeStackEvents" "amazon-ecs-cli-setup-demo"
        (.service ⟨"AccessDenied", "no", "describe-stack-events", some 254⟩)) ∧
      answered es "create-cluster" (Service.nameIn "create-cluster" "demo") = true ∧
      answered es "create-stack" (Stack.Handle.idIn "create-stack") = true := by decide +kernel
  have founded := foundsCluster_of_answered founding
  have leaves : demoOperator.LeavesStack es := by
    obtain ⟨e, member, creates, answers⟩ := answered_iff.mp creating
    cases read : Stack.Handle.idIn "create-stack" e.reply with
    | error cause =>
        rw [read] at answers
        cases answers
    | ok id => exact .inr ⟨e, member, creates, id, Stack.Handle.answersId_iff.mpr read⟩
  obtain ⟨cleaned, -⟩ := deletion_cleans_up_stack _ _ (.ok "") 1 threeInstances Aws.scripted unseenStack
    _ yielding Scene.Occurs .standing founded failed obliging_yielding (fun _ => ⟨rfl, by decide⟩)
      fun bare => absurd leaves bare
  exact ⟨founded, leaves, ⟨_, failed⟩, cleaned leaves⟩

/-- The creation of the stack is turned down, and the cluster stays as it is. -/
def declinedStack : Aws.Script := freshCluster ++ [
  ("create-stack", [.refusing
    "An error occurred (AccessDenied) when calling the CreateStack operation: no"]),
  ("describe-clusters", [.answering (.obj [("clusters", .arr [.obj [("status", .str "ACTIVE")]])]) 1]),
  ("delete-cluster", [.answering (.obj [("cluster", .obj [])]) 1])]

theorem declinedStack_keeps_cluster :
    let creation := demoOperator.create threeInstances
    let deletion := demoOperator.delete ⟨true⟩
    let es := creation.exchanges Aws.scripted declinedStack
    let t := (creation.run Aws.scripted declinedStack).state
    let shows : Scene → Aws.Script → Prop := fun scene t => scene = .absent ∧ t = declinedStack
    FoundsCluster es ∧ ¬ demoOperator.LeavesStack es ∧
    (∃ failure, (creation.run Aws.scripted declinedStack).outcome = .failed failure ∧
      failure.isReported = true) ∧
    demoOperator.Obliging Aws.scripted shows ∧ shows .absent t ∧
    (deletion.run Aws.scripted t).outcome = .failed (.refused (.stackNotFound "demo")) ∧
    "delete-cluster" ∉ changes (deletion.exchanges Aws.scripted t) := by
  intro creation deletion es t shows
  have kept (call : Invocation) : (Aws.scripted declinedStack call).2 = declinedStack :=
    Aws.scripted_kept (by decide) call
  have same : t = declinedStack := Program.state_of_kept Aws.scripted creation kept
  obtain ⟨failed, founding, declined⟩ : (creation.run Aws.scripted declinedStack).outcome =
      .failed (.remote "CreateStack" "amazon-ecs-cli-setup-demo"
        (.service ⟨"AccessDenied", "no", "create-stack", some 254⟩)) ∧
      answered es "create-cluster" (Service.nameIn "create-cluster" "demo") = true ∧
      ¬ answered es "create-stack" (Stack.Handle.idIn "create-stack") = true := by decide +kernel
  have missing : demoOperator.stack.presenceIn
      (Aws.scripted declinedStack demoOperator.stack.statusCall).1 = .missing := by decide +kernel
  have active : (Service.statusIn "demo" (Aws.scripted declinedStack
      (Service.activeCall demoOperator.access "demo")).1).map Service.tellsActive = .ok true := by
    decide +kernel
  have obliging : demoOperator.Obliging Aws.scripted shows := {
    active := by
      rintro scene t ⟨rfl, rfl⟩
      exact ⟨Service.reportsActive_iff.mpr active, rfl, kept _⟩
    absent := by
      rintro t ⟨-, rfl⟩
      exact missing
    standing := fun shown => nomatch shown.1
    deletes := fun shown => nomatch shown.1
    leaves := fun shown => nomatch shown.1
    gone := fun shown => nomatch shown.1
    removes := fun shown => nomatch shown.1 }
  have shown : shows .absent t := ⟨rfl, same⟩
  obtain ⟨es', t', refusal, unchanged⟩ := obliging.leads_refusal (by decide) shown
  refine ⟨foundsCluster_of_answered founding, ?_, ⟨_, failed, rfl⟩, obliging, shown, refusal.ending, ?_⟩
  · rintro (⟨described, rest, shape, existing, -⟩ | ⟨e, member, creates, id, answers⟩)
    · have told : described = (Aws.scripted declinedStack demoOperator.stack.statusCall).1 :=
        Program.reply_of_exchanges Aws.scripted shape
      rw [told, missing] at existing
      cases existing
    · refine declined (answered_iff.mpr ⟨e, member, creates, ?_⟩)
      rw [Stack.Handle.answersId_iff.mp answers]
      rfl
  · rw [refusal.through, unchanged]
    exact List.not_mem_nil

end Operator

end Cluster

end ClusterStack
