import ClusterStack.Aws.Call
import ClusterStack.Stack.Service
/-!
# Replies that cannot be used

Whatever bytes a call answers with, its reply is read either as an answer or as one of few kinds of
failure. Most of them are failures of a call, which the operations on a stack or a cluster report as
their own. Nothing is prepared for the others: a text that is nested too deeply, a program that could
not be started for an unknown reason, and times that cannot be compared.
-/
namespace ClusterStack

/-- Nothing is prepared for the failure of the reply. -/
inductive Failure.Unprepared : Failure → Prop
  | overNested : Unprepared .overNested
  | crash (reason : String) : Unprepared (.crash reason)
  | timesNotOrdered : Unprepared (.data .timesNotOrdered)

theorem Failure.Unprepared.not_isOfCall {failure : Failure} (h : failure.Unprepared) :
    failure.isOfCall = false := by
  cases h <;> rfl

theorem Failure.ofCall_eq_remote {failure : Failure} (operation resource : String)
    (h : failure.isOfCall = true) :
    Failure.ofCall operation resource failure = .remote operation resource failure := if_pos h

theorem Failure.Unprepared.ofCall_eq {failure : Failure} (operation resource : String)
    (h : failure.Unprepared) : Failure.ofCall operation resource failure = failure :=
  if_neg (by rw [h.not_isOfCall]; exact Bool.false_ne_true)

theorem ok_of_bind {α β : Type} {e : Except Failure α} {f : α → Except Failure β} {b : β}
    (h : e.bind f = .ok b) : ∃ a, e = .ok a ∧ f a = .ok b := by
  cases e with
  | error failure => cases h
  | ok a => exact ⟨a, rfl, h⟩

theorem error_of_bind {α β : Type} {e : Except Failure α} {f : α → Except Failure β}
    {failure : Failure} (h : e.bind f = .error failure) :
    e = .error failure ∨ ∃ a, e = .ok a ∧ f a = .error failure := by
  cases e with
  | error other =>
      cases h
      exact .inl rfl
  | ok a => exact .inr ⟨a, rfl, h⟩

theorem mapM_eq_some {α β : Type} {f : α → Option β} {g : α → β} {items : List α}
    (h : ∀ a ∈ items, f a = some (g a)) : items.mapM f = some (items.map g) := by
  induction items with
  | nil => rfl
  | cons a rest ih =>
      rw [List.mapM_cons, h a List.mem_cons_self, ih fun b member => h b (List.mem_cons_of_mem a member)]
      rfl

theorem mapError_eq_ok_iff {α : Type} {e : Except Failure α} {f : Failure → Failure} {a : α} :
    e.mapError f = .ok a ↔ e = .ok a := by
  cases e with
  | ok b => exact Iff.rfl
  | error failure => exact ⟨nofun, nofun⟩

theorem mapError_eq_error_iff {α : Type} {e : Except Failure α} {f : Failure → Failure}
    {failure : Failure} :
    e.mapError f = .error failure ↔ ∃ cause, e = .error cause ∧ failure = f cause := by
  cases e with
  | ok a =>
      refine ⟨nofun, ?_⟩
      rintro ⟨cause, no, -⟩
      cases no
  | error cause =>
      constructor
      · rintro ⟨rfl⟩
        exact ⟨cause, rfl, rfl⟩
      · rintro ⟨_, ⟨rfl⟩, rfl⟩
        rfl

theorem readAs_error {α : Type} {title : String} {check : Validation.Check α} {data : Json}
    {failure : Failure} (h : readAs title check data = .error failure) :
    ∃ report, failure = .value (.invalid report) := by
  unfold readAs at h
  cases hc : (check data).titled title with
  | ok a =>
      rw [hc] at h
      cases h
  | error report =>
      rw [hc] at h
      cases h
      exact ⟨_, rfl⟩

namespace Aws

theorem readOutput_error {operation output : String} {failure : Failure}
    (h : readOutput operation output = .error failure) :
    failure.isOfCall = true ∨ failure = .overNested := by
  unfold readOutput at h
  split at h
  · cases h
  · split at h
    · cases h
    · cases h
      exact .inl rfl
    · cases h
      exact .inl rfl
    · cases h
      exact .inr rfl
    · cases h
      exact .inl rfl

theorem readReply_error {operation : String} {reply : Reply} {failure : Failure}
    (h : readReply operation reply = .error failure) :
    failure.isOfCall = true ∨ failure.Unprepared := by
  cases reply with
  | notStarted fault =>
      cases h
      cases fault with
      | system fault => exact .inl rfl
      | value reason => exact .inl rfl
      | crash reason => exact .inr (.crash reason)
  | exited code output errors =>
      simp only [readReply] at h
      split at h
      · rcases readOutput_error h with h | rfl
        · exact .inl h
        · exact .inr .overNested
      · cases h
        exact .inl rfl

theorem responseMember_ok {α : Type} {members : List (Text × Json)} {key operation : String}
    {read : Json → Except Failure α} {a : α}
    (h : responseMember (.obj members) key read operation = .ok a) :
    ∃ part, Json.member? members key = some part ∧ read part = .ok a := by
  unfold responseMember at h
  cases found : Json.member? members key with
  | none =>
      simp only [found] at h
      cases h
  | some part =>
      simp only [found] at h
      split at h
      · cases h
      · exact ⟨part, rfl, h⟩

theorem responseMember_error {α : Type} {answer : Json} {key title operation : String}
    {check : Validation.Check α} {failure : Failure}
    (h : responseMember answer key (readAs title check) operation = .error failure) :
    ∃ error, failure = .service error := by
  unfold responseMember at h
  split at h
  · split at h
    · cases h
      exact ⟨_, rfl⟩
    · split at h
      · cases h
        exact ⟨_, rfl⟩
      · rename_i unfit
        obtain ⟨report, rfl⟩ := readAs_error h
        exact absurd h (unfit (.invalid report))
  · cases h
    exact ⟨_, rfl⟩

end Aws

namespace Stack

theorem EventPage.checkNewestFirst_error {times : List Timestamp} {failure : Failure}
    (h : checkNewestFirst times = .error failure) :
    failure = .data .timesNotOrdered ∨ ∃ fault, failure = .value fault := by
  induction times with
  | nil => cases h
  | cons newer rest ih =>
      cases rest with
      | nil => cases h
      | cons older rest =>
          unfold checkNewestFirst at h
          split at h
          · cases h
            exact .inl rfl
          · cases h
            exact .inr ⟨_, rfl⟩
          · exact ih h

theorem EventPage.ofJson_error {data : Json} {failure : Failure}
    (h : EventPage.ofJson data = .error failure) :
    failure = .data .timesNotOrdered ∨ ∃ fault, failure = .value fault := by
  rcases error_of_bind h with misshapen | ⟨page, -, checked⟩
  · obtain ⟨report, rfl⟩ := readAs_error misshapen
    exact .inr ⟨_, rfl⟩
  · rcases error_of_bind checked with misordered | ⟨u, -, fine⟩
    · exact checkNewestFirst_error misordered
    · cases fine

namespace Service

theorem readPage_error {answer : List (Text × Json)} {failure : Failure}
    (h : readPage answer = .error failure) :
    failure.isOfCall = true ∨ failure = .data .timesNotOrdered := by
  unfold readPage at h
  split at h
  · cases h
    exact .inl rfl
  · rename_i unfit
    rcases EventPage.ofJson_error h with rfl | ⟨fault, rfl⟩
    · exact .inr rfl
    · exact absurd h (unfit fault)

theorem readStatus_error {name : String} {answer : List (Text × Json)} {failure : Failure}
    (h : readStatus name answer = .error failure) : failure.isOfCall = true := by
  rcases error_of_bind h with unlisted | ⟨described, -, h⟩
  · obtain ⟨error, rfl⟩ := Aws.responseMember_error unlisted
    rfl
  · cases described with
    | nil =>
        cases h
        rfl
    | cons stack others =>
        obtain ⟨error, rfl⟩ := Aws.responseMember_error h
        rfl

end Service

end Stack

end ClusterStack
