import ClusterStack.Proofs.Cluster.SizeUpdate
import ClusterStack.Proofs.Cluster.Submission
import ClusterStack.Proofs.Stack.RequestText
/-!
# The sets that commands submit

What a creation and a change of the size submit is built up by the operations on sets, from strings
alone if the image that was looked up is one. So the call tells the whole set, with its keys, values and
flags in their order.
-/
namespace ClusterStack.Cluster

open Stack (Parameters ParameterKey)

/-- The set that a call submits, which is told by the text after the flag for parameters. -/
def submitted? (call : Invocation) : Option Parameters :=
  match call.arguments.reverse with
  | .str text :: .str flag :: _ => if flag = "--parameters" then Parameters.ofText? text else none
  | _ => none

theorem submitted_eq {call : Invocation} {front : List Json} {set : Parameters}
    (shape : call.arguments = front ++ [.str "--parameters", .str set.requestText])
    (built : set.Built) : submitted? call = some set := by
  rw [submitted?, shape, List.reverse_append]
  exact (if_pos rfl).trans built.hasStrings.ofText_requestText

theorem built_ofValues {values : List (ParameterKey × Text)}
    (strings : ∀ entry ∈ values, ∃ s : String, entry.2 = s) : (Parameters.ofValues values).Built := by
  induction values using List.reverseRecOn with
  | nil => exact .empty
  | append_singleton values entry ih =>
      obtain ⟨key, value⟩ := entry
      obtain ⟨others, last⟩ := List.forall_mem_append.mp strings
      obtain ⟨s, rfl⟩ := last _ (List.mem_singleton_self _)
      rw [Parameters.ofValues_append]
      exact Parameters.built_put (ih others) key s

theorem built_resized (n : Nat) : (Operator.resized n).Built :=
  Parameters.built_put Parameters.built_keepingAll .size (toString n)

namespace Operator

variable {operator : Operator} {es : List Exchange} {e : Exchange}

/-- Where a creation asks for a stack, the call tells the set of the values of the options, unless an
image was looked up that is no string. -/
theorem plays_create_tells {template : Except Failure String}
    (atHand : operator.template = .ofExcept template) {o : CreationOptions} {outcome : Outcome Text}
    (h : (operator.create o).Plays es outcome) (member : e ∈ es)
    (asks : e.call.operation = "create-stack") : ∃ looked size image,
      Sized o size ∧ operator.Chooses o looked image ∧
      ((∀ id, image = some id → ∃ s : String, id = s) →
        (Parameters.ofValues (o.values operator.config.cluster size image)).Built ∧
        submitted? e.call = some (.ofValues (o.values operator.config.cluster size image))) := by
  obtain ⟨-, looked, -, -, body, size, image, -, -, sized, chosen, call, submittable, -⟩ :=
    plays_create_course atHand h member asks
  refine ⟨looked, size, image, sized, chosen, fun strings => ?_⟩
  have built : (Parameters.ofValues (o.values operator.config.cluster size image)).Built := by
    refine built_ofValues fun entry member => ?_
    rcases o.string_of_mem_values member with ⟨s, same, -⟩ | looked
    · exact ⟨s, same⟩
    · exact strings _ looked
  rw [← creationCall_ofValues operator.stack body submittable.distinct] at call
  have shape : e.call.arguments = [.str "--stack-name", .str operator.stack.name,
      .str "--template-body", .str body, .str "--capabilities", .str Stack.rolesAcknowledged] ++
      [.str "--parameters", .str (Parameters.ofValues
        (o.values operator.config.cluster size image)).requestText] := by
    rw [call]
    rfl
  exact ⟨built, submitted_eq shape built⟩

/-- Every update in a change of the size tells the set that keeps everything but the size. -/
theorem plays_resize_tells {o : ResizeOptions} {outcome : Outcome Unit}
    (h : (operator.resize o).Plays es outcome) (member : e ∈ es)
    (update : e.call.operation = "update-stack") : ∃ text n, nonempty? o.size = some text ∧
      sizeOfText text = .ok n ∧ (resized n).Built ∧ submitted? e.call = some (resized n) := by
  obtain ⟨text, n, given, read, call⟩ := operator.plays_resize_submits h member update
  have shape : e.call.arguments = [.str "--stack-name", .str operator.stack.name,
      .str "--use-previous-template", .str "--capabilities", .str Stack.rolesAcknowledged] ++
      [.str "--parameters", .str (resized n).requestText] := by
    rw [call]
    rfl
  exact ⟨text, n, given, read, built_resized n, submitted_eq shape (built_resized n)⟩

end Operator

end ClusterStack.Cluster
