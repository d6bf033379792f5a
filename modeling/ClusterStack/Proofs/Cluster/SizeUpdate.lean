import ClusterStack.Proofs.Cluster.Commands
import ClusterStack.Proofs.Cluster.Methods
import ClusterStack.Proofs.Number.Numerals
import ClusterStack.Proofs.Rehearsals
import ClusterStack.Proofs.Stack.Confirmation
import ClusterStack.Proofs.Template.Assignment
/-!
# What a change of the size submits

A parameter that is missing from an update falls back to the default of the template. The update that
changes the size therefore has an item for every declared parameter: the new size, and for all others
that the stack keeps what it has.
-/
namespace ClusterStack.Cluster.Operator

open Stack (Parameter Parameters ParameterKey)

section

variable (n : Nat)

/-- The parameter under the key in an update that changes the size. -/
def resizedParameter (key : ParameterKey) : Parameter :=
  if key = .size then ⟨key.name, some (Text.ofString (toString n)), false⟩ else ⟨key.name, none, true⟩

theorem toList_resized : (resized n).toList = ParameterKey.all.map (resizedParameter n) := rfl

theorem resizedParameter_key (key : ParameterKey) : (resizedParameter n key).key = key.name := by
  unfold resizedParameter
  split <;> rfl

theorem resizedParameter_isValid (key : ParameterKey) : (resizedParameter n key).isValid = true := by
  unfold resizedParameter
  split
  · simp [Parameter.isValid, Text.isEmpty, Text.ofString]
  · rfl

/-- The update assigns the numeral to the size, and to every other declared parameter what it had. -/
theorem assignment_resized (previous : Text → Text) :
    Template.assignment? previous (resized n).toRequest =
      some (Template.declarations.map fun d => ((d.key.name : Text),
        if d.key = .size then Text.ofString (toString n) else previous d.key.name)) := by
  have own : ∀ p ∈ (resized n).toList, ∃ key, p = resizedParameter n key := by
    intro p member
    rw [toList_resized] at member
    obtain ⟨key, -, rfl⟩ := List.mem_map.mp member
    exact ⟨key, rfl⟩
  rw [Template.assignment_toRequest]
  · refine congrArg some (List.map_congr_left fun d _ => ?_)
    have found : (resized n).find? d.key.name = some (resizedParameter n d.key) :=
      Parameters.find_map_all (toList_resized n) (resizedParameter_key n) d.key
    rw [found]
    dsimp only
    unfold resizedParameter
    by_cases size : d.key = .size
    · rw [if_pos size, if_pos size]
      rfl
    · rw [if_neg size, if_neg size]
      rfl
  · intro p member
    obtain ⟨key, rfl⟩ := own p member
    rw [resizedParameter_key]
    exact Template.isDeclared_name key
  · intro p member
    obtain ⟨key, rfl⟩ := own p member
    exact resizedParameter_isValid n key

end

/-- The call for an update of the stack with these items. -/
def updateCall (stack : Stack.Handle) (items : List Json) : Invocation :=
  stack.service.invocation "update-stack" stack.name ["--use-previous-template", "--capabilities",
    Stack.rolesAcknowledged, "--parameters", ((Json.arr items).toText : String)]

variable (operator : Operator)

theorem plays_adjust {size : Nat} {es : List Exchange} {outcome : Outcome Unit}
    (h : (operator.adjust size operator.stack).Plays es outcome) :
    ∃ updated waited, es = ⟨updateCall operator.stack (resized size).toRequest, updated⟩ :: waited ∧
      changes waited = [] := by
  have asks := (Stack.Service.asks_submit operator.stack.service "update-stack" "update"
    operator.stack.name ["--use-previous-template"] (resized size)).remotely "UpdateStack"
      operator.stack.name
  obtain ⟨updated, waited, rfl, ⟨id, -, waits⟩ | ⟨failure, -, rfl, -⟩⟩ := asks.bind h
  · have reads := operator.stack.admits_reads.does_awaitUpdate operator.pages
    exact ⟨updated, waited, rfl, reads.changes_eq_nil (Program.plays_note.mp waits)⟩
  · exact ⟨updated, [], rfl, rfl⟩

/-- Every update in a change of the size is the one for the number that the size spells. -/
theorem plays_resize_submits {o : ResizeOptions} {es : List Exchange} {outcome : Outcome Unit}
    (h : (operator.resize o).Plays es outcome) {e : Exchange} (member : e ∈ es)
    (update : e.call.operation = "update-stack") : ∃ text n, nonempty? o.size = some text ∧
      sizeOfText text = .ok n ∧ e.call = updateCall operator.stack (resized n).toRequest := by
  have change : e.call.operation ∉ readings := update ▸ by decide
  rcases operator.plays_resize_guarded h with ⟨rfl, -⟩ | ⟨-, -, text, n, given, read, onStanding⟩
  · cases member
  rcases operator.plays_onStanding onStanding with
    ⟨none, -⟩ | ⟨active, described, rest, shape, -, -, adjusts⟩
  · exact absurd member (not_mem_of_changes_eq_nil none change)
  obtain ⟨updated, waited, rfl, reads⟩ := operator.plays_adjust adjusts
  refine ⟨text, n, given, read, ?_⟩
  have first := mem_of_mem_cons_reading (shape ▸ member) (Service.activeCall_reads _ _) change
  have second := mem_of_mem_cons_reading first operator.stack.statusCall_reads change
  rcases List.mem_cons.mp second with rfl | later
  · rfl
  · exact absurd later (not_mem_of_changes_eq_nil reads change)

/-- Whatever is replied, every update that a change of the size asks for assigns the numeral of the
size to its parameter and to all other declared parameters what they had, whatever that was. -/
theorem resizing_assigns_size_alone {σ : Type} (o : ResizeOptions) (backend : Backend σ) (s : σ) :
    let es := (operator.resize o).exchanges backend s
    ∀ e ∈ es, e.call.operation = "update-stack" → ∃ text n items,
      nonempty? o.size = some text ∧ Text.digitsValue (Text.trim text.toList) = n ∧ 0 < n ∧
      Number.IsNumeral (toString n).toList n ∧ e.call = updateCall operator.stack items ∧
      ∀ previous, Template.assignment? previous items =
        some (Template.declarations.map fun d => ((d.key.name : Text),
          if d.key = .size then Text.ofString (toString n) else previous d.key.name)) := by
  intro es e member update
  obtain ⟨text, n, given, read, call⟩ :=
    operator.plays_resize_submits (Program.plays_run backend (operator.resize o) s) member update
  obtain ⟨-, value, pos⟩ := sizeOfText_ok read
  exact ⟨text, n, (resized n).toRequest, given, value, pos, Number.isNumeral_toString pos, call,
    assignment_resized n⟩

theorem resizing_to_seven :
    let operator : Operator :=
      ⟨⟨"demo", none, none, usualStackPrefix⟩, .listed [], .ofExcept (.ok ""), 1⟩
    ∃ e ∈ (operator.resize ⟨true, some " 007 "⟩).exchanges Aws.scripted
        (Aws.standing "UPDATE_COMPLETE"),
      ∃ items, e.call = updateCall operator.stack items ∧
        ∀ previous, Template.assignment? previous items =
          some (Template.declarations.map fun d => ((d.key.name : Text),
            if d.key = .size then Text.ofString "7" else previous d.key.name)) := by
  intro operator
  have third : (((operator.resize ⟨true, some " 007 "⟩).exchanges Aws.scripted
      (Aws.standing "UPDATE_COMPLETE"))[2]?.map fun e => e.call.operation) = some "update-stack" := by
    decide +kernel
  obtain ⟨e, found, update⟩ := Option.map_eq_some_iff.mp third
  have member := List.mem_of_getElem? found
  obtain ⟨text, n, items, given, value, -, -, call, assigned⟩ :=
    resizing_assigns_size_alone operator ⟨true, some " 007 "⟩ Aws.scripted _ e member update
  obtain rfl : " 007 " = text := Option.some.inj given
  obtain rfl : 7 = n := value
  exact ⟨e, member, items, call, assigned⟩

end ClusterStack.Cluster.Operator
