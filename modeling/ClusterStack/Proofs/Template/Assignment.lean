import ClusterStack.Proofs.Replies
import ClusterStack.Proofs.Stack.Parameters
import ClusterStack.Template.Document
/-!
# What submitted parameters assign

The stack service reads the items of an update as an assignment of values to the parameters that the
template of the stack declares. An item gives a value or keeps the one that the stack has, and a
parameter without an item falls back to its default. Keys that the template does not declare, and keys
that are given twice, are refused.
-/
namespace ClusterStack.Template

def isDeclared (key : Text) : Bool := declarations.any fun d => (d.key.name : Text) == key

def itemMember? (name : Text) : Json → Option Json
  | .obj members => Json.member? members name
  | _ => none

def itemKey? (item : Json) : Option Text := (itemMember? "ParameterKey" item).bind Json.text?

/-- The value that an item assigns, where the stack has this value for its key. -/
def itemValue? (previous : Text) (item : Json) : Option Text :=
  match itemMember? "ParameterValue" item, itemMember? "UsePreviousValue" item with
  | some value, _ => value.text?
  | none, some (.bool true) => some previous
  | _, _ => none

/-- The values of all declared parameters after an update with these items, unless it is refused. -/
def assignment? (previous : Text → Text) (items : List Json) : Option (List (Text × Text)) := do
  let keys ← items.mapM itemKey?
  if keys.Nodup ∧ keys.all isDeclared then
    declarations.mapM fun d =>
      match items.find? fun item => itemKey? item == some (d.key.name : Text) with
      | some item => (itemValue? (previous d.key.name) item).map ((d.key.name : Text), ·)
      | none => some (d.key.name, d.default)
  else none

section

open Stack (Parameter Parameters ParameterKey)

theorem isDeclared_name (key : ParameterKey) : isDeclared key.name = true := by
  cases key <;> decide

theorem itemKey_toRequest (p : Parameter) : itemKey? p.toRequest = some (p.key : Text) := by
  unfold Parameter.toRequest
  cases p.value <;> rfl

theorem itemValue_toRequest (previous : Text) (p : Parameter) (valid : p.isValid = true) :
    itemValue? previous p.toRequest = some (p.value.getD previous) := by
  unfold Parameter.toRequest
  cases given : p.value with
  | some value => rfl
  | none =>
      have kept : p.usePrevious = true := by
        simpa [Parameter.isValid, given] using valid
      rw [kept]
      rfl

theorem find_toRequest (set : Parameters) (key : String) :
    (set.toRequest.find? fun item => itemKey? item == some (key : Text)) =
      (set.find? key).map Parameter.toRequest := by
  have same : ((fun item => itemKey? item == some (key : Text)) ∘ Parameter.toRequest) =
      fun p => p.key == key := by
    funext p
    rw [Function.comp_apply, itemKey_toRequest, Bool.eq_iff_iff, beq_iff_eq, beq_iff_eq,
      Option.some.injEq, Function.Injective.eq_iff Text.ofString_injective]
  rw [Parameters.toRequest, List.find?_map, same]
  rfl

/-- What a set assigns when it is submitted: each parameter its own value or else the previous one, and
the default to every declared parameter that the set does not have. -/
theorem assignment_toRequest (set : Parameters) (previous : Text → Text)
    (declared : ∀ p ∈ set.toList, isDeclared p.key = true)
    (valid : ∀ p ∈ set.toList, p.isValid = true) :
    assignment? previous set.toRequest = some (declarations.map fun d => ((d.key.name : Text),
      match set.find? d.key.name with
      | some p => p.value.getD (previous d.key.name)
      | none => d.default)) := by
  have keys : set.toRequest.mapM itemKey? = some (set.toList.map fun p => (p.key : Text)) := by
    rw [Parameters.toRequest, List.mapM_map]
    exact mapM_eq_some fun p _ => itemKey_toRequest p
  have accepted : (set.toList.map fun p => (p.key : Text)).Nodup ∧
      (set.toList.map fun p => (p.key : Text)).all isDeclared = true := by
    refine ⟨?_, ?_⟩
    · have mapped := set.distinct.map Text.ofString_injective
      rw [List.map_map] at mapped
      exact mapped
    · rw [List.all_map, List.all_eq_true]
      exact declared
  unfold assignment?
  rw [keys, Option.bind_eq_bind, Option.bind_some, if_pos accepted]
  refine mapM_eq_some fun d _ => ?_
  rw [find_toRequest]
  cases found : set.find? d.key.name with
  | none => rfl
  | some p =>
      have member := (Parameters.mem_of_find found).1
      rw [Option.map_some]
      dsimp only
      rw [itemValue_toRequest _ p (valid p member)]
      rfl

end

end ClusterStack.Template
