import ClusterStack.Proofs.Cluster.ListingCourse
import ClusterStack.Proofs.Cluster.Rearrangement
import ClusterStack.Proofs.Cluster.Rows
import ClusterStack.Proofs.Rehearsals
/-!
# The join of a listing

A listing puts together what five kinds of calls answer. Where all replies are well-formed, its rows
are those of the containers of all tasks that are described, each with the address of its own instance.
In which order the tasks are described is of no account to what is asked, and to what a row shows.
-/
namespace ClusterStack.Cluster

section

variable {es es' : List Exchange}

theorem Rearranged.wellAnswered {e e' : Exchange} (h : Rearranged e e') (well : WellAnswered e) :
    WellAnswered e' := by
  cases h with
  | kept => exact well
  | @tasks call _ _ _ tasks' describes _ read _ =>
      have other {operation : String} (same : call.operation = operation)
          (apart : operation ≠ "describe-tasks") : False := apart (same.symm.trans describes)
      exact {
        active := fun same => (other same (by decide)).elim
        listed := fun same => (other same (by decide)).elim
        described := fun _ => ⟨tasks', read⟩
        placed := fun same => (other same (by decide)).elim
        located := fun same => (other same (by decide)).elim }

theorem told_of_rearranged {α : Type} {operation : String} (read : Reply → List α)
    (other : operation ≠ "describe-tasks") (alike : List.Forall₂ Rearranged es es') :
    told operation read es' = told operation read es := by
  induction alike with
  | nil => rfl
  | @cons e e' rest rest' like _ ih =>
      have step (x : Exchange) (more : List Exchange) : told operation read (x :: more) =
          told operation read [x] ++ told operation read more := told_append [x] more
      rw [step e', step e, ih]
      by_cases asks : e.call.operation = operation
      · rw [like.eq (asks ▸ other)]
      · have kept : ∀ x ∈ [e], x.call.operation ≠ operation := List.forall_mem_singleton.mpr asks
        have kept' : ∀ x ∈ [e'], x.call.operation ≠ operation := by
          refine List.forall_mem_singleton.mpr ?_
          rw [like.call]
          exact asks
        rw [told_of_others kept, told_of_others kept']

theorem calls_of_rearranged (alike : List.Forall₂ Rearranged es es') :
    es'.map Exchange.call = es.map Exchange.call := by
  induction alike with
  | nil => rfl
  | cons like _ ih => rw [List.map_cons, List.map_cons, like.call, ih]

theorem wellAnswered_of_rearranged (alike : List.Forall₂ Rearranged es es')
    (well : ∀ e ∈ es, WellAnswered e) : ∀ e ∈ es', WellAnswered e := by
  induction alike with
  | nil => exact nofun
  | cons like _ ih =>
      obtain ⟨here, later⟩ := List.forall_mem_cons.mp well
      exact List.forall_mem_cons.mpr ⟨like.wellAnswered here, ih later⟩

end

namespace Operator

/-- A listing of an active cluster, answered with well-formed replies, asks for the tasks of either
status, for their container instances and for the instances that these are, and returns one row for each
container of the described tasks, in order. The same requests are made, and the same row is returned of
each container, where the tasks are described in another order. -/
theorem listing_joins_addresses (operator : Operator) {σ : Type} (backend : Backend σ) (s : σ)
    (named : operator.config.cluster ≠ "")
    (well : ∀ e ∈ operator.list.exchanges backend s, WellAnswered e) :
    let es := operator.list.exchanges backend s
    let row := rowTold (placementsTold es) (reportsTold es)
    (∃ active ran halted placed located, operator.Course es active ran halted placed located) ∧
    (operator.list.run backend s).outcome =
      .done ((tasksTold es).flatMap fun task => task.containers.map (row task)) ∧
    (∀ task c, Shows (publicAddress? (placementsTold es) (reportsTold es) task) task c (row task c)) ∧
    ∀ es', List.Forall₂ Rearranged es es' →
      es'.map Exchange.call = es.map Exchange.call ∧
      ∀ {τ : Type} (backend' : Backend τ) (t : τ), backend'.Answers t es' →
        operator.list.exchanges backend' t = es' ∧
        (operator.list.run backend' t).outcome =
          .done ((tasksTold es').flatMap fun task => task.containers.map (row task)) := by
  intro es row
  have play : operator.listActive.Plays es (operator.list.run backend s).outcome := by
    rw [← list_eq named]
    exact Program.plays_run backend operator.list s
  obtain ⟨course, ended⟩ := plays_listActive_told play well
  refine ⟨course, ended, fun task c => ?_, fun es' alike => ⟨calls_of_rearranged alike, ?_⟩⟩
  · have shown := shows_ofContainer (publicAddress? (placementsTold es) (reportsTold es) task) task c
    rw [nonempty_publicAddress] at shown
    exact shown
  intro τ backend' t answers
  rw [ended] at play
  obtain ⟨rows, -, again⟩ := operator.tracks_listActive es _ es' play alike
  obtain ⟨-, same⟩ := plays_listActive_told again (wellAnswered_of_rearranged alike well)
  rw [same] at again
  have placements : placementsTold es' = placementsTold es := told_of_rearranged _ (by decide) alike
  have reports : reportsTold es' = reportsTold es := told_of_rearranged _ (by decide) alike
  rw [placements, reports, ← list_eq named] at again
  exact Program.run_of_plays again answers

/-- One task is running, and is placed on an instance with a public address. -/
def oneTask : Aws.Script := [
  ("describe-clusters", [.answering (.obj [("clusters", .arr [.obj [("status", .str "ACTIVE")]])]) 1]),
  ("list-tasks", [.answering (.obj [("taskArns", .arr [.str "t"])]) 1, .answering (.obj []) 1]),
  ("describe-tasks", [.answering (.obj [("tasks", .arr [.obj [("taskArn", .str "c/t"),
    ("containerInstanceArn", .str "h"), ("containers", .arr [.obj [("name", .str "web"),
      ("networkBindings", .arr [.obj []])]])]])]) 1]),
  ("describe-container-instances", [.answering (.obj [("containerInstances", .arr [
    .obj [("containerInstanceArn", .str "h"), ("ec2InstanceId", .str "i")]])]) 1]),
  ("describe-instances", [.answering (.obj [("Reservations", .arr [.obj [("Instances", .arr [
    .obj [("InstanceId", .str "i"), ("PublicIpAddress", .str "::1")]])]])]) 1])]

theorem listing_joins_address_of_one :
    let operator : Operator :=
      ⟨⟨"demo", none, none, usualStackPrefix⟩, .listed [], .ofExcept (.ok ""), 1⟩
    let es := operator.list.exchanges Aws.scripted oneTask
    operator.config.cluster ≠ "" ∧ (∀ e ∈ es, WellAnswered e) ∧
    (∃ active ran halted placed located, operator.Course es active ran halted placed located) ∧
    (operator.list.run Aws.scripted oneTask).outcome =
      .done [⟨"t/web", "", "::1:0->0/tcp", "", ""⟩] := by
  intro operator es
  have named : operator.config.cluster ≠ "" := by decide
  have evaluated : (∀ e ∈ es, WellAnswered e) ∧ ((tasksTold es).flatMap fun task =>
      task.containers.map (rowTold (placementsTold es) (reportsTold es) task)) =
        [⟨"t/web", "", "::1:0->0/tcp", "", ""⟩] := by
    decide +kernel
  obtain ⟨course, ended, -⟩ := listing_joins_addresses operator Aws.scripted oneTask named evaluated.1
  refine ⟨named, evaluated.1, course, ?_⟩
  rw [← evaluated.2]
  exact ended

end Operator

end ClusterStack.Cluster
