import ClusterStack.Cluster.ContainerRow
import ClusterStack.Proofs.Cluster.Placement
import Mathlib.Data.List.TakeWhile
/-!
# What a row shows

A row is named after the task and the container, and shows each binding of the container at the address
of the instance of the task, if that is known, and at its own address otherwise.
-/
namespace ClusterStack

theorem Text.toString_eq_empty {t : Text} : (t.toString == "") = t.isEmpty := by
  obtain ⟨codes⟩ := t
  rw [Bool.eq_iff_iff, beq_iff_eq]
  simp [Text.toString, Text.isEmpty]

namespace Cluster

/-- The part of a name after its last slash, which is all of a name without a slash. -/
def IsLastPart (part name : String) : Prop :=
  '/' ∉ part.toList ∧ (name = part ∨ ∃ before, name = before ++ "/" ++ part)

theorem isLastPart_shortId (name : String) : IsLastPart (shortId name) name := by
  let back := name.toList.reverse
  have part : (shortId name).toList = (back.takeWhile (· != '/')).reverse := String.toList_ofList
  have whole : name.toList = (back.dropWhile (· != '/')).reverse ++ (shortId name).toList := by
    rw [part, ← List.reverse_append, List.takeWhile_append_dropWhile, List.reverse_reverse]
  constructor
  · intro slash
    rw [part, List.mem_reverse] at slash
    have other := List.mem_takeWhile_imp slash
    simp at other
  cases rest : back.dropWhile (· != '/') with
  | nil =>
      rw [rest, List.reverse_nil, List.nil_append] at whole
      exact .inl (String.toList_inj.mp whole)
  | cons c others =>
      have slash : c = '/' := by
        have stopped := List.head?_dropWhile_not (· != '/') back
        rw [rest] at stopped
        simpa using stopped
      refine .inr ⟨String.ofList others.reverse, String.toList_inj.mp ?_⟩
      rw [whole, rest, slash]
      simp

/-- A binding as it is shown where it can be reached at this address, if any. -/
def PortBinding.reachedAt (b : PortBinding) (address : Option Text) : String :=
  let protocol := ((nonempty b.protocol).map Text.toString).getD "tcp"
  let ports := s!"{b.hostPort.getD 0}->{b.containerPort.getD 0}/{protocol}"
  match address with
  | some address => s!"{address}:{ports}"
  | none => ports

/-- The row shows the container of the task, whose instance has this address if any. -/
structure Shows (address : Option Text) (task : Task) (c : Container) (row : ContainerRow) : Prop where
  name : ∃ id, IsLastPart id task.arn.toString ∧ row.name = id ++ "/" ++ c.name.toString
  ports : row.ports =
    ", ".intercalate (c.bindings.map fun b => b.reachedAt (address.or (nonempty b.address)))

theorem orElse_given (t : Option Text) (other : String) :
    orElse (Text.shownIfGiven t) other = ((nonempty t).map Text.toString).getD other := by
  cases t with
  | none => rfl
  | some t =>
      have shown : Text.shownIfGiven (some t) = t.toString := rfl
      rw [orElse, shown, Text.toString_eq_empty, nonempty, Option.filter_some]
      cases t.isEmpty <;> rfl

theorem nonempty_or (s t : Option Text) : nonempty ((nonempty s).or t) = (nonempty s).or (nonempty t) := by
  cases given : nonempty s with
  | none => rfl
  | some t =>
      obtain ⟨rfl, some⟩ := nonempty_some given
      exact given

theorem PortBinding.shown_eq (b : PortBinding) (address : Option Text) :
    b.shown (Text.shownIfGiven address) = b.reachedAt ((nonempty address).or (nonempty b.address)) := by
  have chosen : orElse (Text.shownIfGiven address) (Text.shownIfGiven b.address) =
      Text.shownIfGiven ((nonempty address).or b.address) := by
    rw [orElse_given]
    cases nonempty address <;> rfl
  rw [← nonempty_or, PortBinding.shown, chosen, orElse_given]
  cases (nonempty address).or b.address with
  | none => rfl
  | some t =>
      have shown : Text.shownIfGiven (some t) = t.toString := rfl
      have given : nonempty (some t) = if t.isEmpty then none else some t := by
        rw [nonempty, Option.filter_some]
        cases t.isEmpty <;> rfl
      rw [shown, given]
      simp only [Text.toString_eq_empty]
      cases t.isEmpty <;> rfl

theorem shows_ofContainer (address : Option Text) (task : Task) (c : Container) :
    Shows (nonempty address) task c (ContainerRow.ofContainer (Text.shownIfGiven address) task c) where
  name := ⟨shortId task.arn.toString, isLastPart_shortId _, rfl⟩
  ports := congrArg (", ".intercalate ·) (List.map_congr_left fun b _ => b.shown_eq address)

end Cluster

end ClusterStack
