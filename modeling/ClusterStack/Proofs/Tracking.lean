import ClusterStack.Proofs.Faults
import Mathlib.Data.List.Forall2
/-!
# Programs on like exchanges

Two programs may be compared where the outside answers them alike, by a relation of exchanges that
says what alike is. The second tracks the first if it goes along with every play of the first that
comes to a result. This is kept by putting programs in a row. A play becomes a run with a behaviour that gives
its replies in turn.
-/
namespace ClusterStack

/-- Asked these calls one after another, the outside gives these replies. -/
def Backend.Answers {σ : Type} (backend : Backend σ) : σ → List Exchange → Prop
  | _, [] => True
  | s, e :: rest => (backend s e.call).1 = e.reply ∧ Answers backend (backend s e.call).2 rest

theorem forall₂_append_left {α β : Type} {R : α → β → Prop} {first rest : List α} {items : List β}
    (h : List.Forall₂ R (first ++ rest) items) :
    ∃ first' rest', List.Forall₂ R first first' ∧ List.Forall₂ R rest rest' ∧
      items = first' ++ rest' := by
  induction first generalizing items with
  | nil => exact ⟨[], items, .nil, h, rfl⟩
  | cons a first ih =>
      obtain ⟨b, others, here, later, rfl⟩ := List.forall₂_cons_left_iff.mp h
      obtain ⟨first', rest', hf, hr, rfl⟩ := ih later
      exact ⟨b :: first', rest', .cons here hf, hr, rfl⟩

namespace Program

variable {α β γ δ : Type}

theorem run_of_plays {σ : Type} {backend : Backend σ} {p : Program α} {s : σ} {es : List Exchange}
    {outcome : Outcome α} (h : p.Plays es outcome) (answers : backend.Answers s es) :
    p.exchanges backend s = es ∧ (p.run backend s).outcome = outcome := by
  induction p generalizing s es with
  | done a | fail failure | unfinished =>
      obtain ⟨rfl, rfl⟩ := h
      exact ⟨rfl, rfl⟩
  | invoke call next ih =>
      obtain ⟨reply, rest, rfl, h⟩ := h
      obtain ⟨answered, answers⟩ := answers
      change (backend s call).1 = reply at answered
      subst answered
      obtain ⟨through, ending⟩ := ih _ h answers
      exact ⟨congrArg (_ :: ·) through, ending⟩
  | log level message next ih => exact ih h answers
  | pause milliseconds next ih => exact ih h answers

variable {Like : Exchange → Exchange → Prop} {R : α → β → Prop}

/-- On exchanges that are like those of the first program, the second one comes to a result that is
related to the one of the first. -/
def Tracks (Like : Exchange → Exchange → Prop) (p : Program α) (q : Program β) (R : α → β → Prop) :
    Prop :=
  ∀ es a es', p.Plays es (.done a) → List.Forall₂ Like es es' → ∃ b, R a b ∧ q.Plays es' (.done b)

theorem tracks_pure {a : α} {b : β} (related : R a b) : Tracks Like (pure a) (pure b) R := by
  rintro es a' es' ⟨rfl, same⟩ alike
  cases same
  cases alike
  exact ⟨b, related, rfl, rfl⟩

theorem Tracks.bind {S : γ → δ → Prop} {p : Program α} {q : Program β} {f : α → Program γ}
    {g : β → Program δ} (first : Tracks Like p q R)
    (rest : ∀ a b, R a b → Tracks Like (f a) (g b) S) : Tracks Like (p >>= f) (q >>= g) S := by
  intro es c es' h alike
  rcases plays_bind.mp h with ⟨a, before, after, rfl, hp, hf⟩ | ⟨failure, -, no⟩ | ⟨-, no⟩
  · obtain ⟨before', after', alikeBefore, alikeAfter, rfl⟩ := forall₂_append_left alike
    obtain ⟨b, related, hq⟩ := first _ _ _ hp alikeBefore
    obtain ⟨d, related, hg⟩ := rest a b related _ _ _ hf alikeAfter
    exact ⟨d, related, plays_bind.mpr (.inl ⟨b, before', after', rfl, hq, hg⟩)⟩
  · cases no
  · cases no

theorem Tracks.remotely {p : Program α} {q : Program β} (h : Tracks Like p q R)
    (operation resource : String) :
    Tracks Like (p.remotely operation resource) (q.remotely operation resource) R := by
  intro es a es' play alike
  obtain ⟨inner, hp, same⟩ := plays_mapFailure.mp play
  cases inner with
  | done a =>
      cases same
      obtain ⟨b, related, hq⟩ := h es _ es' hp alike
      exact ⟨b, related, plays_mapFailure.mpr ⟨.done b, hq, rfl⟩⟩
  | failed failure => cases same
  | unfinished => cases same

theorem tracks_request {call call' : Invocation} {read : Reply → Except Failure α}
    {read' : Reply → Except Failure β}
    (reads : ∀ reply e a, Like ⟨call, reply⟩ e → read reply = .ok a →
      e.call = call' ∧ ∃ b, read' e.reply = .ok b ∧ R a b) :
    Tracks Like (request call read) (request call' read') R := by
  intro es a es' h alike
  obtain ⟨reply, rfl, ended⟩ := plays_request.mp h
  obtain ⟨e, others, like, none, rfl⟩ := List.forall₂_cons_left_iff.mp alike
  cases none
  obtain ⟨same, b, told, related⟩ := reads reply e a like (Outcome.ofExcept_eq_done ended.symm)
  refine ⟨b, related, plays_request.mpr ⟨e.reply, ?_, ?_⟩⟩
  · rw [← same]
  · rw [told]
    rfl

/-- A program tracks itself if the calls that it makes are not answered otherwise. -/
theorem tracks_self {allowed : Action → Prop} {p : Program α} (does : p.Does allowed)
    (kept : ∀ e e', allowed (.invoked e.call) → Like e e' → e = e') : Tracks Like p p Eq := by
  intro es a es' h alike
  have same : es = es' := by
    have both := (List.forall₂_and_left es es').mpr ⟨does.plays h, alike⟩
    have equal := both.imp fun e e' ⟨own, like⟩ => kept e e' own like
    rwa [List.forall₂_eq_eq_eq] at equal
  rw [← same]
  exact ⟨a, rfl, h⟩

end Program

end ClusterStack
