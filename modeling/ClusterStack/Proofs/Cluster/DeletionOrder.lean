import ClusterStack.Proofs.Cluster.Commands
import ClusterStack.Proofs.Stack.Confirmation
/-!
# The order of a deletion

A cluster is deleted after its stack, and only when a reply has confirmed that the stack is gone. Every
exchange between the deletion of the stack and that of the cluster is known: the ones that leave the wait
undecided and the one that confirms.
-/
namespace ClusterStack.Cluster.Operator

variable (operator : Operator)

/-- Everything that a deletion can go through: it changes nothing, or it deletes the stack after the
guards, and the cluster after a confirmation. -/
theorem plays_delete {o : DeletionOptions} {es : List Exchange} {outcome : Outcome Unit}
    (h : (operator.delete o).Plays es outcome) :
    (changes es = [] ∧ outcome ≠ .done ()) ∨
    ∃ active described deletion rest,
      es = ⟨Service.activeCall operator.access operator.config.cluster, active⟩ ::
        ⟨operator.stack.statusCall, described⟩ :: ⟨operator.stack.deletionCall, deletion⟩ :: rest ∧
      o.force = true ∧ operator.config.cluster ≠ "" ∧ Service.ReportsActive active ∧
      operator.stack.presenceIn described = .existing ∧
      ((changes rest = [] ∧ outcome ≠ .done ()) ∨
        ∃ during confirming removal, rest = during ++ confirming ::
            [⟨Service.removalCall operator.access operator.config.cluster, removal⟩] ∧
          Stack.Handle.Accepted deletion ∧
          (∀ e ∈ during, Stack.Wait.deletion.Undecided operator.stack e) ∧
          operator.stack.Confirms confirming ∧
          (outcome = .done () → Service.HoldsCluster "delete-cluster" removal)) := by
  rcases operator.plays_delete_guarded h with ⟨rfl, failure, -, rfl⟩ | ⟨forced, named, h₂⟩
  · exact .inl ⟨rfl, nofun⟩
  rcases operator.plays_onStanding h₂ with
    ⟨reads, failure, rfl⟩ | ⟨active, described, es₂, rfl, reports, existing, h₄⟩
  · exact .inl ⟨reads, nofun⟩
  -- The guards have passed, and the stack is deleted whatever comes next.
  obtain ⟨deletion, es₃, rfl, deleted⟩ := operator.stack.checks_delete.bind h₄
  refine .inr ⟨active, described, deletion, es₃, rfl, forced, named, reports, existing, ?_⟩
  rcases deleted with ⟨rfl, failure, rfl⟩ | ⟨-, accepted, h₅⟩
  · exact .inl ⟨rfl, nofun⟩
  rcases Stack.Handle.plays_awaitDeletion_bind (Program.plays_note.mp h₅) with
    ⟨reads, unfinished⟩ | ⟨during, confirming, es₄, rfl, undecided, confirms, h₆⟩
  · exact .inl ⟨reads, unfinished ()⟩
  obtain ⟨removal, es₅, rfl, ⟨rfl, failure, rfl⟩ | ⟨name, holds, rfl, rfl⟩⟩ :=
    ((Service.checks_delete _ _).remotely _ _).bind h₆
  · exact .inr ⟨during, confirming, removal, rfl, accepted, undecided, confirms, nofun⟩
  · exact .inr ⟨during, confirming, removal, rfl, accepted, undecided, confirms, fun _ => holds⟩

theorem changes_guarded_deletion (active described deletion : Reply) (rest : List Exchange) :
    changes (⟨Service.activeCall operator.access operator.config.cluster, active⟩ ::
      ⟨operator.stack.statusCall, described⟩ :: ⟨operator.stack.deletionCall, deletion⟩ :: rest) =
        "delete-stack" :: changes rest := by
  rw [operator.changes_standing, changes_cons_of_change operator.stack.deletionCall_changes]
  rfl

/-- Whatever is replied, a deletion deletes the stack before the cluster and each of them at most once:
the stack only after the guards have passed, and the cluster only directly after a reply that confirms
that the stack is gone. It comes to a result only by an answer about the cluster. -/
theorem deletion_order {σ : Type} (o : DeletionOptions) (backend : Backend σ) (s : σ) :
    let es := (operator.delete o).exchanges backend s
    let cluster := operator.config.cluster
    let stack := operator.stack
    changes es <+: ["delete-stack", "delete-cluster"] ∧
    ("delete-stack" ∈ changes es → ∃ active described deletion rest,
      es = ⟨Service.activeCall operator.access cluster, active⟩ :: ⟨stack.statusCall, described⟩ ::
        ⟨stack.deletionCall, deletion⟩ :: rest ∧
      o.force = true ∧ cluster ≠ "" ∧ Service.ReportsActive active ∧
      stack.presenceIn described = .existing) ∧
    ("delete-cluster" ∈ changes es → ∃ guards deletion during confirming removal,
      es = guards ++ ⟨stack.deletionCall, deletion⟩ :: during ++
        [confirming, ⟨Service.removalCall operator.access cluster, removal⟩] ∧
      Stack.Handle.Accepted deletion ∧ (∀ e ∈ during, Stack.Wait.deletion.Undecided stack e) ∧
      stack.Confirms confirming) ∧
    (((operator.delete o).run backend s).outcome = .done () → ∃ earlier removal,
      es = earlier ++ [⟨Service.removalCall operator.access cluster, removal⟩] ∧
      Service.HoldsCluster "delete-cluster" removal) := by
  intro es cluster stack
  have play : (operator.delete o).Plays es _ := Program.plays_run backend (operator.delete o) s
  rcases operator.plays_delete play with ⟨none, undone⟩ | ⟨active, described, deletion, rest, shape,
    forced, named, reports, existing, ⟨none, undone⟩ |
      ⟨during, confirming, removal, rfl, accepted, undecided, confirms, holds⟩⟩
  · rw [none]
    exact ⟨List.nil_prefix, nofun, nofun, fun done => absurd done undone⟩
  · have made : changes es = ["delete-stack"] := by
      rw [shape, changes_guarded_deletion, none]
    rw [made]
    refine ⟨⟨["delete-cluster"], rfl⟩, fun _ => ?_, fun h => ?_, fun done => absurd done undone⟩
    · exact ⟨active, described, deletion, rest, shape, forced, named, reports, existing⟩
    · simp at h
  · have made : changes es = ["delete-stack", "delete-cluster"] := by
      rw [shape, changes_guarded_deletion, Stack.changes_confirmed undecided confirms,
        changes_cons_of_change (Service.removalCall_changes _ _)]
      rfl
    rw [made]
    refine ⟨List.prefix_rfl, fun _ => ?_, fun _ => ?_, fun done => ?_⟩
    · exact ⟨active, described, deletion, _, shape, forced, named, reports, existing⟩
    · exact ⟨[⟨Service.activeCall operator.access cluster, active⟩, ⟨stack.statusCall, described⟩],
        deletion, during, confirming, removal, shape, accepted, undecided, confirms⟩
    · refine ⟨⟨Service.activeCall operator.access cluster, active⟩ ::
        ⟨stack.statusCall, described⟩ :: ⟨stack.deletionCall, deletion⟩ :: (during ++ [confirming]),
        removal, ?_, holds done⟩
      rw [shape, List.cons_append, List.cons_append, List.cons_append, List.append_assoc]
      rfl

end ClusterStack.Cluster.Operator
