import ClusterStack.Proofs.Stack.Validation
import ClusterStack.Proofs.Stack.WriteHistory
/-!
# What a validation reports

Whatever was done with a set, its validation reports the first key that offends: the needed keys come
first, whether they are there or not, and then the others in the order in which they were first written.
-/
namespace ClusterStack.Stack.Parameters

theorem foldl_after_begun {start : Start} {first : Parameters} (begun : start.set = .ok first)
    (steps : List Step) :
    steps.foldl after first = ofWrites (start.written ++ first.writes steps) := by
  rw [start.set_eq] at begun
  split at begun
  · cases begun
  · cases begun
    exact after_ofWrites start.written steps

/-- A set that went through any operations is valid exactly if the needed parameters are there and every
parameter has a value or keeps that of the stack. Otherwise its validation reports the first key that
offends, the needed keys before the others and these in the order of their first insertion, and whether
that key is absent. In either case the set stays as it is. -/
theorem validation_reports_first_offender {start : Start} {first : Parameters}
    (begun : start.set = .ok first) (steps : List Step) :
    let set := steps.foldl after first
    let inserted := ((start.written ++ first.writes steps).map Parameter.key).eraseDups
    let order := ["KeyName", "EcsCluster", "EcsAmiId"] ++ inserted.filter fun key => !isNeeded key
    (set.validate = .ok () ↔ (∀ key ∈ ParameterKey.needed, set.has key = true) ∧
      ∀ p ∈ set.toList,
        (∃ value, p.value = some value ∧ value.isEmpty = false) ∨ p.usePrevious = true) ∧
    (∀ failure, set.validate = .error failure ↔ ∃ before key after, order = before ++ key :: after ∧
      (∀ earlier ∈ before, set.offends earlier = false) ∧ set.offends key = true ∧
      failure = .parameter key (if set.contains key then .neitherValueNorPrevious else .notFound)) ∧
    set.after .validate = set := by
  intro set inserted order
  have written : set = ofWrites (start.written ++ first.writes steps) := foldl_after_begun begun steps
  have keys : set.keys = inserted := by rw [written, keys_ofWrites]
  have checked : set.checkOrder = order := by rw [checkOrder, keys]
  have unchanged : set.after .validate = set := by
    rw [after, Step.perform]
    cases set.validate <;> rfl
  refine ⟨?_, fun failure => ?_, unchanged⟩
  · simp only [← Parameter.isValid_iff]
    exact validate_ok_iff
  · rw [validate_error_iff, ← checked]
    simp only [List.find?_eq_some_iff_append, Bool.not_eq_true']
    constructor
    · rintro ⟨key, ⟨offends, before, after, shape, innocent⟩, rfl⟩
      exact ⟨before, key, after, shape, innocent, offends, rfl⟩
    · rintro ⟨before, key, after, shape, innocent, offends, rfl⟩
      exact ⟨key, ⟨offends, before, after, shape, innocent⟩, rfl⟩

/-- The cluster has an empty name. Another empty value was written earlier, and no image is given. -/
def unnamedCluster : List Step :=
  [.add "VpcId" (.str ""), .addPrevious "KeyName" (.bool true), .add "EcsCluster" (.str "")]

theorem unnamedCluster_reported :
    Start.new.set = .ok empty ∧ (unnamedCluster.foldl after empty).validate =
      .error (.parameter "EcsCluster" .neitherValueNorPrevious) := by
  have begun : Start.new.set = .ok empty := rfl
  refine ⟨begun, ((validation_reports_first_offender begun unnamedCluster).2.1 _).mpr ?_⟩
  exact ⟨["KeyName"], "EcsCluster", ["EcsAmiId", "VpcId"], by decide +kernel⟩

end ClusterStack.Stack.Parameters
