import ClusterStack.Proofs.Stack.Parameters
import Mathlib.Data.List.Find
/-!
# What a validation checks

A validation goes through the needed keys and then through the parameters under other keys, and stops at
the first fault. The two passes are one search through the keys in the order in which they are checked:
what it reports is the first key of that order that offends, and there is none exactly if the needed
parameters are there and every parameter has a value of its own or that of the stack.
-/
namespace ClusterStack.Stack

theorem Parameter.isValid_iff {p : Parameter} : p.isValid = true ↔
    (∃ value, p.value = some value ∧ value.isEmpty = false) ∨ p.usePrevious = true := by
  obtain ⟨key, value, usePrevious⟩ := p
  cases value with
  | none => simp [isValid]
  | some value => simp [isValid]

namespace Parameters

def isNeeded (key : String) : Bool := (ParameterKey.needed.map ParameterKey.name).contains key

/-- The keys in the order in which they are checked: the needed ones, whether they are there or not, and
the others in the order of their insertion. -/
def checkOrder (set : Parameters) : List String :=
  ["KeyName", "EcsCluster", "EcsAmiId"] ++ set.keys.filter fun key => !isNeeded key

/-- A needed key offends when it is absent, and every key when its parameter is invalid. -/
def offends (set : Parameters) (key : String) : Bool :=
  match set.find? key with
  | some p => !p.isValid
  | none => isNeeded key

/-- The fault of a key that offends. -/
def faultOf (set : Parameters) (key : String) : ParameterFault :=
  if set.contains key then .neitherValueNorPrevious else .notFound

section

variable {set : Parameters}

/-- A loop of checks stops at the first item that fails its check. -/
theorem forIn_checks {α : Type} (items : List α) {check : α → Except Failure (ForInStep Unit)}
    {bad : α → Bool} {failure : α → Failure}
    (checks : ∀ a ∈ items, check a = if bad a then .error (failure a) else .ok (.yield ⟨⟩)) :
    forIn items () (fun a _ => check a) =
      match items.find? bad with
      | some a => .error (failure a)
      | none => .ok ⟨⟩ := by
  induction items with
  | nil => rfl
  | cons a rest ih =>
      obtain ⟨first, others⟩ := List.forall_mem_cons.mp checks
      rw [List.forIn_cons, first]
      cases fails : bad a with
      | true =>
          rw [List.find?_cons_of_pos fails]
          rfl
      | false =>
          rw [List.find?_cons_of_neg (Bool.eq_false_iff.mp fails)]
          exact ih others

/-- The check of a parameter, after which the loop goes on. -/
theorem checkParameter_bind (p : Parameter) :
    (do
      checkParameter p
      pure (ForInStep.yield ⟨⟩) : Except Failure (ForInStep Unit)) =
      if !p.isValid then .error (.parameter p.key .neitherValueNorPrevious) else .ok (.yield ⟨⟩) := by
  unfold checkParameter
  split
  · rename_i valid
    rw [valid]
    rfl
  · rename_i invalid
    rw [Bool.not_eq_true] at invalid
    rw [invalid]
    rfl

theorem checkNeeded_bind (set : Parameters) {key : String} (needed : isNeeded key = true) :
    (do
      let p ← set.get key
      checkParameter p
      pure (ForInStep.yield ⟨⟩) : Except Failure (ForInStep Unit)) =
      if set.offends key then .error (.parameter key (set.faultOf key)) else .ok (.yield ⟨⟩) := by
  unfold get offends faultOf contains
  cases found : set.find? key with
  | none =>
      dsimp only
      rw [needed]
      rfl
  | some p =>
      rw [← (mem_of_find found).2]
      exact checkParameter_bind p

theorem checkOther_bind (p : Parameter) :
    (if !isNeeded p.key then do
      checkParameter p
      pure (ForInStep.yield ⟨⟩)
    else pure (ForInStep.yield ⟨⟩) : Except Failure (ForInStep Unit)) =
      if !isNeeded p.key && !p.isValid then .error (.parameter p.key .neitherValueNorPrevious)
      else .ok (.yield ⟨⟩) := by
  cases isNeeded p.key with
  | true => rfl
  | false => exact checkParameter_bind p

/-- Among the parameters under other keys, the first invalid one is under the first key that offends. -/
theorem find_others : (set.keys.filter fun key => !isNeeded key).find? set.offends =
      (set.toList.find? fun p => !isNeeded p.key && !p.isValid).map Parameter.key := by
  rw [List.find?_filter, keys, List.find?_map]
  refine congrArg (Option.map Parameter.key) (List.find?_congr fun p member => ?_)
  rw [Function.comp_apply, offends, find_of_mem member, Bool.decide_and, Bool.decide_eq_true,
    Bool.decide_eq_true]

/-- The two passes of a validation are one search in the order in which the keys are checked. -/
theorem validate_eq (set : Parameters) : set.validate =
    match set.checkOrder.find? set.offends with
      | some key => .error (.parameter key (set.faultOf key))
      | none => .ok () := by
  have needed := forIn_checks ParameterKey.needed fun key member =>
    set.checkNeeded_bind (List.contains_iff_mem.mpr (List.mem_map_of_mem member))
  have others := forIn_checks set.toList fun p _ => checkOther_bind p
  have names : ["KeyName", "EcsCluster", "EcsAmiId"] = ParameterKey.needed.map ParameterKey.name := rfl
  have searched : set.checkOrder.find? set.offends =
      ((ParameterKey.needed.find? fun key => set.offends key.name).map ParameterKey.name).or
        ((set.toList.find? fun p => !isNeeded p.key && !p.isValid).map Parameter.key) := by
    rw [checkOrder, List.find?_append, find_others, names, List.find?_map]
    rfl
  unfold validate
  rw [searched, needed]
  cases ParameterKey.needed.find? fun key => set.offends key.name with
  | some key => rfl
  | none =>
      have rest : (do
          forIn set.toList () fun p _ =>
            if !isNeeded p.key then do
              checkParameter p
              pure (ForInStep.yield ⟨⟩)
            else pure (ForInStep.yield ⟨⟩)
          pure () : Except Failure Unit) =
          match set.toList.find? fun p => !isNeeded p.key && !p.isValid with
          | some p => .error (.parameter p.key .neitherValueNorPrevious)
          | none => .ok () := by
        rw [others]
        cases set.toList.find? fun p => !isNeeded p.key && !p.isValid <;> rfl
      refine rest.trans ?_
      cases found : set.toList.find? fun p => !isNeeded p.key && !p.isValid with
      | none => rfl
      | some p =>
          have there : set.find? p.key = some p :=
            find_of_mem (List.mem_of_find?_eq_some found)
          have fault : set.faultOf p.key = .neitherValueNorPrevious := by
            rw [faultOf, contains, there]
            rfl
          change _ = Except.error (Failure.parameter p.key (set.faultOf p.key))
          rw [fault]

theorem mem_checkOrder_of_needed {key : String} (needed : isNeeded key = true) :
    key ∈ set.checkOrder :=
  List.mem_append_left _ (List.contains_iff_mem.mp needed)

theorem mem_checkOrder_of_mem {key : String} (member : key ∈ set.keys) : key ∈ set.checkOrder := by
  cases needed : isNeeded key with
  | true => exact mem_checkOrder_of_needed needed
  | false =>
      refine List.mem_append_right _ (List.mem_filter.mpr ⟨member, ?_⟩)
      rw [needed]
      rfl

/-- No key offends exactly if the needed parameters are there and all parameters are valid. -/
theorem find_offender_eq_none : set.checkOrder.find? set.offends = none ↔
      (∀ key ∈ ParameterKey.needed, set.has key = true) ∧ ∀ p ∈ set.toList, p.isValid = true := by
  rw [List.find?_eq_none]
  constructor
  · intro innocent
    refine ⟨fun key member => ?_, fun p member => ?_⟩
    · have needed : isNeeded key.name = true := List.contains_iff_mem.mpr (List.mem_map_of_mem member)
      have kept := innocent key.name (mem_checkOrder_of_needed needed)
      unfold offends at kept
      unfold has
      cases found : set.find? key.name with
      | none =>
          rw [found] at kept
          exact absurd needed kept
      | some p => rfl
    · have kept := innocent p.key (mem_checkOrder_of_mem (List.mem_map_of_mem member))
      rw [offends, find_of_mem member] at kept
      simpa using kept
  · rintro ⟨present, valid⟩ key -
    unfold offends
    cases found : set.find? key with
    | none =>
        intro needed
        obtain ⟨known, member, rfl⟩ := List.mem_map.mp (List.contains_iff_mem.mp needed)
        have there := present known member
        rw [has, found] at there
        cases there
    | some p =>
        have fine := valid p (mem_of_find found).1
        simp [fine]

/-- A set is valid exactly if the needed parameters are there and all parameters are valid. -/
theorem validate_ok_iff : set.validate = .ok () ↔
    (∀ key ∈ ParameterKey.needed, set.has key = true) ∧ ∀ p ∈ set.toList, p.isValid = true := by
  rw [← find_offender_eq_none, validate_eq]
  cases set.checkOrder.find? set.offends with
  | none => exact iff_of_true rfl rfl
  | some key => simp only [reduceCtorEq]

/-- What a validation reports is the fault of the first key that offends. -/
theorem validate_error_iff {failure : Failure} : set.validate = .error failure ↔
    ∃ key, set.checkOrder.find? set.offends = some key ∧ failure = .parameter key (set.faultOf key) := by
  rw [validate_eq]
  cases set.checkOrder.find? set.offends with
  | none => simp only [reduceCtorEq, false_and, exists_false]
  | some key => simp only [Except.error.injEq, Option.some.injEq, exists_eq_left', eq_comm]

end

end Parameters

end ClusterStack.Stack
