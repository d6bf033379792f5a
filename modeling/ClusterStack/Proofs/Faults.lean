import ClusterStack.Proofs.Exchanges
import ClusterStack.Proofs.Replies
/-!
# Faults of a play

A question is a program that makes one call and ends as the reader of its reply says. A program halts
at faults if it goes on only while every reply is sound: the first reply that is at fault is its last
one, and the program ends with the failure that this reply is blamed for. Both are kept by putting
programs in a row, so that the commands inherit them from the services that they call.
-/
namespace ClusterStack

namespace Outcome

variable {α β : Type} {e : Except Failure α}

theorem ofExcept_eq_done {a : α} (h : ofExcept e = .done a) : e = .ok a := by
  cases e with
  | ok b =>
      cases h
      rfl
  | error failure => cases h

theorem ofExcept_eq_failed {failure : Failure} (h : ofExcept e = .failed failure) :
    e = .error failure := by
  cases e with
  | ok a => cases h
  | error cause =>
      cases h
      rfl

theorem ofExcept_eq_done_iff {a : α} : ofExcept e = .done a ↔ e = .ok a :=
  ⟨ofExcept_eq_done, congrArg ofExcept⟩

theorem ofExcept_eq_failed_iff {failure : Failure} : ofExcept e = .failed failure ↔ e = .error failure :=
  ⟨ofExcept_eq_failed, congrArg ofExcept⟩

theorem ofExcept_ne_unfinished : ofExcept e ≠ .unfinished := by
  cases e <;> exact nofun

theorem mapFailure_ofExcept (f : Failure → Failure) :
    (ofExcept e).mapFailure f = ofExcept (e.mapError f) := by
  cases e <;> rfl

end Outcome

/-- Which exchanges are sound, and which failures the others are blamed for. -/
structure Judgement where
  sound : Exchange → Prop
  blamed : Exchange → Failure → Prop

/-- A play without a fault, or one that is over with its first fault. A failure of the first kind is
one of the program itself. -/
inductive Halted (judgement : Judgement) (own : Failure → Prop) {α : Type} :
    List Exchange → Outcome α → Prop
  | sound {es : List Exchange} {outcome : Outcome α} : (∀ e ∈ es, judgement.sound e) →
      (∀ failure, outcome = .failed failure → own failure) → Halted judgement own es outcome
  | fault (before : List Exchange) {e : Exchange} {failure : Failure} :
      (∀ e ∈ before, judgement.sound e) → judgement.blamed e failure →
      Halted judgement own (before ++ [e]) (.failed failure)

namespace Halted

variable {judgement : Judgement} {own : Failure → Prop} {α : Type} {es : List Exchange}

theorem cons {e : Exchange} (first : judgement.sound e) {outcome : Outcome α}
    (rest : Halted judgement own es outcome) : Halted judgement own (e :: es) outcome := by
  cases rest with
  | sound all kept => exact .sound (List.forall_mem_cons.mpr ⟨first, all⟩) kept
  | fault before all blamed =>
      exact .fault (e :: before) (List.forall_mem_cons.mpr ⟨first, all⟩) blamed

theorem append {first : List Exchange} (before : ∀ e ∈ first, judgement.sound e)
    {outcome : Outcome α} (rest : Halted judgement own es outcome) :
    Halted judgement own (first ++ es) outcome := by
  induction first with
  | nil => exact rest
  | cons e first ih =>
      exact (ih fun x member => before x (List.mem_cons_of_mem e member)).cons
        (before e List.mem_cons_self)

/-- A program that has no failures of its own blames the one reply that it gets. -/
theorem blamed_of_singleton {e : Exchange} {failure : Failure}
    (h : Halted judgement (fun _ => False) [e] (.failed failure : Outcome α)) :
    judgement.blamed e failure := by
  generalize shape : [e] = es at h
  generalize ending : Outcome.failed failure = outcome at h
  cases h with
  | sound _ kept => exact (kept failure ending.symm).elim
  | fault before _ blamed =>
      cases ending
      rw [← List.nil_append [e]] at shape
      cases List.append_inj_right' shape rfl
      exact blamed

theorem sound_of_done {a : α} (h : Halted judgement own es (.done a)) :
    ∀ e ∈ es, judgement.sound e := by
  cases h with
  | sound all => exact all

end Halted

namespace Program

variable {α β : Type} {es : List Exchange} {call : Invocation}

/-- The program makes this one call and ends as the reader of the reply says. -/
def Asks (p : Program α) (call : Invocation) (read : Reply → Except Failure α) : Prop :=
  ∀ es outcome, p.Plays es outcome → ∃ reply, es = [⟨call, reply⟩] ∧ outcome = .ofExcept (read reply)

section

variable {p : Program α} {read : Reply → Except Failure α}

theorem asks_request : (request call read).Asks call read := fun _ _ h => plays_request.mp h

theorem Asks.bind {f : α → Program β} (asks : p.Asks call read) {outcome : Outcome β}
    (h : (p >>= f).Plays es outcome) : ∃ reply rest, es = ⟨call, reply⟩ :: rest ∧
      ((∃ a, read reply = .ok a ∧ (f a).Plays rest outcome) ∨
        ∃ failure, read reply = .error failure ∧ rest = [] ∧ outcome = .failed failure) := by
  rcases plays_bind.mp h with ⟨a, first, rest, rfl, hp, hf⟩ | ⟨failure, hp, rfl⟩ | ⟨hp, -⟩
  · obtain ⟨reply, rfl, same⟩ := asks _ _ hp
    exact ⟨reply, rest, rfl, .inl ⟨a, Outcome.ofExcept_eq_done same.symm, hf⟩⟩
  · obtain ⟨reply, rfl, same⟩ := asks _ _ hp
    exact ⟨reply, [], rfl, .inr ⟨failure, Outcome.ofExcept_eq_failed same.symm, rfl, rfl⟩⟩
  · obtain ⟨reply, rfl, same⟩ := asks _ _ hp
    exact absurd same.symm Outcome.ofExcept_ne_unfinished

theorem Asks.checks {Passes : Reply → α → Prop} (asks : p.Asks call read)
    (passes : ∀ reply a, read reply = .ok a → Passes reply a) : p.Checks call Passes := by
  intro es outcome h
  obtain ⟨reply, rfl, rfl⟩ := asks _ _ h
  refine ⟨reply, rfl, ?_⟩
  cases hr : read reply with
  | ok a => exact .inl ⟨a, passes reply a hr, rfl⟩
  | error failure => exact .inr ⟨failure, rfl⟩

/-- A question whose answer is looked into further, without another call. -/
theorem Asks.andThen {f : α → Program β} {look : α → Except Failure β} (asks : p.Asks call read)
    (looks : ∀ a es outcome, (f a).Plays es outcome → es = [] ∧ outcome = .ofExcept (look a)) :
    (p >>= f).Asks call fun reply => (read reply).bind look := by
  intro es outcome h
  obtain ⟨reply, rest, rfl, ⟨a, hr, hf⟩ | ⟨failure, hr, rfl, rfl⟩⟩ := asks.bind h
  · obtain ⟨rfl, rfl⟩ := looks a rest outcome hf
    exact ⟨reply, rfl, by simp only [hr]; rfl⟩
  · exact ⟨reply, rfl, by simp only [hr]; rfl⟩

/-- A question that is followed by notes alone. -/
theorem Asks.noted {f : α → Program α} (asks : p.Asks call read)
    (notes : ∀ a es outcome, (f a).Plays es outcome → es = [] ∧ outcome = .done a) :
    (p >>= f).Asks call read := by
  intro es outcome h
  obtain ⟨reply, rest, rfl, ⟨a, hr, hf⟩ | ⟨failure, hr, rfl, rfl⟩⟩ := asks.bind h
  · obtain ⟨rfl, rfl⟩ := notes a rest outcome hf
    exact ⟨reply, rfl, by rw [hr]; rfl⟩
  · exact ⟨reply, rfl, by rw [hr]; rfl⟩

theorem Asks.remotely (asks : p.Asks call read) (operation resource : String) :
    (p.remotely operation resource).Asks call fun reply =>
      (read reply).mapError (Failure.ofCall operation resource) := by
  intro es outcome h
  obtain ⟨inner, hp, rfl⟩ := plays_mapFailure.mp h
  obtain ⟨reply, rfl, rfl⟩ := asks _ _ hp
  exact ⟨reply, rfl, Outcome.mapFailure_ofExcept _⟩

end

/-- Every failure that the program can end with is an allowed one. -/
def FailsOnly (allowed : Failure → Prop) (p : Program α) : Prop :=
  ∀ es failure, p.Plays es (.failed failure) → allowed failure

section

variable {allowed : Failure → Prop} {p : Program α}

theorem FailsOnly.mono {others : Failure → Prop} (h : p.FailsOnly allowed)
    (more : ∀ failure, allowed failure → others failure) : p.FailsOnly others :=
  fun es failure play => more failure (h es failure play)

theorem failsOnly_pure (a : α) : (pure a : Program α).FailsOnly allowed :=
  fun _ _ play => nomatch play.2

theorem failsOnly_fail {failure : Failure} (h : allowed failure) :
    (fail failure : Program α).FailsOnly allowed := by
  rintro es other ⟨-, same⟩
  cases same
  exact h

theorem failsOnly_ofExcept {e : Except Failure α}
    (h : ∀ failure, e = .error failure → allowed failure) : (ofExcept e).FailsOnly allowed := by
  cases e with
  | ok a => exact failsOnly_pure a
  | error failure => exact failsOnly_fail (h failure rfl)

theorem FailsOnly.bind {f : α → Program β} (first : p.FailsOnly allowed)
    (rest : ∀ a, (f a).FailsOnly allowed) : (p >>= f).FailsOnly allowed := by
  intro es failure play
  rcases plays_bind.mp play with ⟨a, _, es', rfl, -, hf⟩ | ⟨failure', hp, same⟩ | ⟨-, same⟩
  · exact rest a es' failure hf
  · cases same
    exact first es failure hp
  · cases same

theorem failsOnly_recover {others : Failure → Prop} {f : Failure → Program α}
    (first : p.FailsOnly others) (instead : ∀ failure, others failure → (f failure).FailsOnly allowed) :
    (p.recover f).FailsOnly allowed := by
  intro es failure play
  rcases plays_recover.mp play with ⟨-, hne⟩ | ⟨cause, es', rest, rfl, hp, hf⟩
  · exact absurd rfl (hne failure)
  · exact instead cause (first es' cause hp) rest failure hf

theorem FailsOnly.remotely {others : Failure → Prop} (h : p.FailsOnly allowed)
    {operation resource : String}
    (reported : ∀ failure, allowed failure → others (Failure.ofCall operation resource failure)) :
    (p.remotely operation resource).FailsOnly others := by
  intro es failure play
  obtain ⟨inner, hp, same⟩ := plays_mapFailure.mp play
  cases inner with
  | failed cause =>
      cases same
      exact reported cause (h es cause hp)
  | _ => cases same

end

/-- The program stops at its first fault. -/
def Halts (judgement : Judgement) (own : Failure → Prop) (p : Program α) : Prop :=
  ∀ es outcome, p.Plays es outcome → Halted judgement own es outcome

section

variable {judgement : Judgement} {own : Failure → Prop} {p : Program α}

theorem halts_ofExcept (e : Except Failure α) (h : ∀ failure, e = .error failure → own failure) :
    (ofExcept e).Halts judgement own := by
  intro es outcome play
  obtain ⟨rfl, rfl⟩ := plays_ofExcept.mp play
  refine .sound nofun fun failure same => ?_
  cases e with
  | ok a => cases same
  | error cause =>
      cases same
      exact h failure rfl

theorem halts_pure (a : α) : (pure a : Program α).Halts judgement own :=
  halts_ofExcept (.ok a) nofun

theorem halts_fail {failure : Failure} (h : own failure) :
    (fail failure : Program α).Halts judgement own := by
  refine halts_ofExcept (.error failure) ?_
  rintro _ ⟨rfl⟩
  exact h

theorem Asks.halts {read : Reply → Except Failure α} (asks : p.Asks call read)
    (sound : ∀ reply a, read reply = .ok a → judgement.sound ⟨call, reply⟩)
    (blamed : ∀ reply failure, read reply = .error failure → judgement.blamed ⟨call, reply⟩ failure) :
    p.Halts judgement own := by
  intro es outcome play
  obtain ⟨reply, rfl, rfl⟩ := asks _ _ play
  cases hr : read reply with
  | ok a => exact .sound (List.forall_mem_singleton.mpr (sound reply a hr)) nofun
  | error failure => exact .fault [] nofun (blamed reply failure hr)

theorem Halts.bind {f : α → Program β} (first : p.Halts judgement own)
    (rest : ∀ a, (f a).Halts judgement own) : (p >>= f).Halts judgement own := by
  intro es outcome play
  rcases plays_bind.mp play with ⟨a, es', es'', rfl, hp, hf⟩ | ⟨failure, hp, rfl⟩ | ⟨hp, rfl⟩
  · exact (rest a es'' outcome hf).append (first es' _ hp).sound_of_done
  · generalize ending : Outcome.failed failure = inner at hp
    cases first es inner hp with
    | sound all kept =>
        refine .sound all fun other same => ?_
        cases same
        exact kept failure ending.symm
    | fault before all blamed =>
        cases ending
        exact .fault before all blamed
  · cases first es _ hp with
    | sound all => exact .sound all nofun

theorem halts_foldlM {f : β → α → Program β} (h : ∀ b a, (f b a).Halts judgement own) (items : List α)
    (b : β) : (items.foldlM f b).Halts judgement own := by
  induction items generalizing b with
  | nil => exact halts_pure b
  | cons a rest ih =>
      rw [List.foldlM_cons]
      exact (h b a).bind ih

theorem Halts.failsOnly (h : p.Halts judgement own) :
    p.FailsOnly fun failure => own failure ∨ ∃ e, judgement.blamed e failure := by
  intro es failure play
  generalize ending : Outcome.failed failure = outcome at play
  cases h es outcome play with
  | sound all kept => exact .inl (kept failure ending.symm)
  | fault before all blamed =>
      cases ending
      exact .inr ⟨_, blamed⟩

end

end Program

end ClusterStack
