import ClusterStack.Aws.Answer
import ClusterStack.Proofs.Faults
/-!
# Kinds of failure

The kind of a failure tells how far a command has come. A service ends with failures that are reported
as failed calls, or with failures that are not reported at all; it neither rejects a command nor blames
a stack.
-/
namespace ClusterStack

/-- The command is refused, its parameters are unfit, or there is no image for it. -/
def Failure.IsRejection : Failure → Prop
  | .refused _ | .parameter _ _ | .image _ => True
  | _ => False

def Failure.IsOfStack : Failure → Prop
  | .stack _ _ => True
  | _ => False

def Failure.IsOfParameter : Failure → Prop
  | .parameter _ _ => True
  | _ => False

/-- A failed call, or a failure that no command reports by itself. -/
def Failure.IsOfService : Failure → Prop
  | .remote _ _ _ | .service _ | .system _ | .value _ | .data _ | .overNested | .crash _ => True
  | _ => False

theorem Failure.isOfService_of_isOfCall {failure : Failure} (h : failure.isOfCall = true) :
    failure.IsOfService := by
  cases failure with
  | service | system | value => trivial
  | _ => cases h

theorem Failure.Unprepared.isOfService {failure : Failure} (h : failure.Unprepared) :
    failure.IsOfService := by
  cases h <;> trivial

theorem Failure.isOfService_ofCall {failure : Failure} (h : failure.IsOfService)
    (operation resource : String) : (Failure.ofCall operation resource failure).IsOfService := by
  unfold Failure.ofCall
  split
  · trivial
  · exact h

theorem Failure.IsOfService.not_isRejection {failure : Failure} (h : failure.IsOfService) :
    ¬ failure.IsRejection := by
  cases failure with
  | refused | parameter | image => exact h.elim
  | _ => exact id

theorem Failure.IsOfService.not_isOfStack {failure : Failure} (h : failure.IsOfService) :
    ¬ failure.IsOfStack := by
  cases failure with
  | stack => exact h.elim
  | _ => exact id

theorem Failure.IsOfParameter.isRejection {failure : Failure} (h : failure.IsOfParameter) :
    failure.IsRejection := by
  cases failure with
  | parameter => trivial
  | _ => exact h.elim

def RaisesOnly {α : Type} (allowed : Failure → Prop) (e : Except Failure α) : Prop :=
  ∀ failure, e = .error failure → allowed failure

section

variable {α β : Type} {allowed : Failure → Prop}

theorem raisesOnly_ok (a : α) : RaisesOnly allowed (.ok a) := nofun

theorem raisesOnly_error {failure : Failure} (h : allowed failure) :
    RaisesOnly allowed (.error failure : Except Failure α) := by
  rintro _ ⟨rfl⟩
  exact h

theorem RaisesOnly.bind {e : Except Failure α} {f : α → Except Failure β}
    (first : RaisesOnly allowed e) (rest : ∀ a, RaisesOnly allowed (f a)) :
    RaisesOnly allowed (e.bind f) := by
  intro failure h
  rcases error_of_bind h with h | ⟨a, -, h⟩
  · exact first failure h
  · exact rest a failure h

theorem RaisesOnly.map {e : Except Failure α} (h : RaisesOnly allowed e) (f : α → β) :
    RaisesOnly allowed (e.map f) := by
  cases e with
  | ok a => exact raisesOnly_ok (f a)
  | error failure => exact raisesOnly_error (h failure rfl)

theorem raisesOnly_foldlM {f : β → α → Except Failure β} (h : ∀ b a, RaisesOnly allowed (f b a))
    (items : List α) (b : β) : RaisesOnly allowed (items.foldlM f b) := by
  induction items generalizing b with
  | nil => exact raisesOnly_ok b
  | cons a rest ih =>
      rw [List.foldlM_cons]
      exact (h b a).bind ih

theorem raisesOnly_mapM {f : α → Except Failure β} (h : ∀ a, RaisesOnly allowed (f a))
    (items : List α) : RaisesOnly allowed (items.mapM f) := by
  induction items with
  | nil => exact raisesOnly_ok []
  | cons a rest ih =>
      rw [List.mapM_cons]
      exact (h a).bind fun _ => ih.bind fun _ => raisesOnly_ok _

end

abbrev RaisesOfService {α : Type} (e : Except Failure α) : Prop := RaisesOnly Failure.IsOfService e

namespace Aws

variable {α : Type}

theorem raises_readReply (operation : String) (reply : Reply) :
    RaisesOfService (readReply operation reply) := by
  intro failure h
  rcases readReply_error h with call | unprepared
  · exact Failure.isOfService_of_isOfCall call
  · exact unprepared.isOfService

theorem raises_responseMember (answer : Json) (key title operation : String)
    (check : Validation.Check α) :
    RaisesOfService (responseMember answer key (readAs title check) operation) := by
  intro failure h
  obtain ⟨error, rfl⟩ := responseMember_error h
  trivial

namespace Answer

theorem raises_members (v : Json) : RaisesOfService (members v) := by
  cases v with
  | obj members => exact raisesOnly_ok members
  | _ => exact raisesOnly_error trivial

theorem raises_member (v : Json) (name : Text) : RaisesOfService (member v name) := (raises_members v).map _

theorem raises_elements (v : Json) : RaisesOfService (elements v) := by
  cases v with
  | arr items => exact raisesOnly_ok items
  | obj members => exact raisesOnly_ok _
  | str t => exact raisesOnly_ok _
  | _ => exact raisesOnly_error trivial

theorem raises_elementsOf (answer : List (Text × Json)) (name : Text) :
    RaisesOfService (elementsOf answer name) := by
  unfold elementsOf
  split
  · exact raises_elements _
  · exact raisesOnly_ok []

theorem raises_first (v : Json) : RaisesOfService (first v) := by
  unfold first
  split
  · exact raisesOnly_ok _
  · exact raisesOnly_error trivial
  · exact raisesOnly_error trivial
  · split
    · exact raisesOnly_ok _
    · exact raisesOnly_error trivial
  · exact raisesOnly_error trivial

theorem raises_key (v : Json) : RaisesOfService (key v) := by
  unfold key
  split
  · exact raisesOnly_ok v
  · exact raisesOnly_error trivial

theorem raises_store (k value : Json) (entries : List (Json × Json)) :
    RaisesOfService (store k value entries) := (raises_key k).map _

end Answer

end Aws

end ClusterStack
