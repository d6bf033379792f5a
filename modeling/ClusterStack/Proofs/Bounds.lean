import ClusterStack.Proofs.Runs
/-!
# Bounded repetitions

A repetition that has no bound of its own is described up to a number of rounds and left unfinished
there. A larger number only goes on where a smaller one is cut off, so what a program does is settled
as soon as one number is large enough. How many calls a program makes, at most and before it is cut
off, is put together from its parts.
-/
namespace ClusterStack.Program

variable {σ α β : Type}

/-- The first program is the second one, cut off in some places. -/
def CutOf : Program α → Program α → Prop
  | .unfinished, _ => True
  | .done a, q => q = .done a
  | .fail failure, q => q = .fail failure
  | .invoke call next, q =>
    ∃ next', q = .invoke call next' ∧ ∀ reply, (next reply).CutOf (next' reply)
  | .log level message next, q => ∃ next', q = .log level message next' ∧ next.CutOf next'
  | .pause milliseconds next, q => ∃ next', q = .pause milliseconds next' ∧ next.CutOf next'

theorem CutOf.refl (p : Program α) : p.CutOf p := by
  induction p with
  | done a => rfl
  | fail failure => rfl
  | unfinished => trivial
  | invoke call next ih => exact ⟨next, rfl, ih⟩
  | log level message next ih => exact ⟨next, rfl, ih⟩
  | pause milliseconds next ih => exact ⟨next, rfl, ih⟩

theorem CutOf.bind {p q : Program α} {f g : α → Program β} (first : p.CutOf q)
    (rest : ∀ a, (f a).CutOf (g a)) : (p >>= f).CutOf (q >>= g) := by
  induction p generalizing q with
  | done a =>
      obtain rfl := first
      exact rest a
  | fail failure =>
      obtain rfl := first
      exact rfl
  | unfinished => trivial
  | invoke call next ih =>
      obtain ⟨next', rfl, each⟩ := first
      exact ⟨_, rfl, fun reply => ih reply (each reply)⟩
  | log level message next ih =>
      obtain ⟨next', rfl, same⟩ := first
      exact ⟨_, rfl, ih same⟩
  | pause milliseconds next ih =>
      obtain ⟨next', rfl, same⟩ := first
      exact ⟨_, rfl, ih same⟩

theorem CutOf.recover {p q : Program α} (first : p.CutOf q) (f : Failure → Program α) :
    (p.recover f).CutOf (q.recover f) := by
  induction p generalizing q with
  | done a =>
      obtain rfl := first
      exact rfl
  | fail failure =>
      obtain rfl := first
      exact .refl _
  | unfinished => trivial
  | invoke call next ih =>
      obtain ⟨next', rfl, each⟩ := first
      exact ⟨_, rfl, fun reply => ih reply (each reply)⟩
  | log level message next ih =>
      obtain ⟨next', rfl, same⟩ := first
      exact ⟨_, rfl, ih same⟩
  | pause milliseconds next ih =>
      obtain ⟨next', rfl, same⟩ := first
      exact ⟨_, rfl, ih same⟩

/-- A run that is not cut off is the run of the whole program. -/
theorem CutOf.run_eq {p q : Program α} (cut : p.CutOf q) (backend : Backend σ) (s : σ)
    (ended : (p.run backend s).outcome ≠ .unfinished) : q.run backend s = p.run backend s := by
  induction p generalizing q s with
  | done a => rw [show q = .done a from cut]
  | fail failure => rw [show q = .fail failure from cut]
  | unfinished => exact absurd rfl ended
  | invoke call next ih =>
      obtain ⟨next', rfl, each⟩ := cut
      exact congrArg (Run.after _) (ih _ (each _) _ ended)
  | log level message next ih =>
      obtain ⟨next', rfl, same⟩ := cut
      exact congrArg (Run.after _) (ih same s ended)
  | pause milliseconds next ih =>
      obtain ⟨next', rfl, same⟩ := cut
      exact congrArg (Run.after _) (ih same s ended)

/-- The program makes at most so many calls. -/
def CallsAtMost (most : Nat) (p : Program α) : Prop :=
  ∀ es outcome, p.Plays es outcome → es.length ≤ most

/-- The program makes at least so many calls before it is cut off. -/
def CallsBeforeCut (least : Nat) (p : Program α) : Prop :=
  ∀ es, p.Plays es .unfinished → least ≤ es.length

section

variable {most more least : Nat} {p : Program α}

theorem CallsAtMost.mono (h : p.CallsAtMost most) (le : most ≤ more) : p.CallsAtMost more :=
  fun es outcome play => Nat.le_trans (h es outcome play) le

theorem CallsAtMost.bind {f : α → Program β} (first : p.CallsAtMost most)
    (rest : ∀ a, (f a).CallsAtMost more) : (p >>= f).CallsAtMost (most + more) := by
  intro es outcome play
  rcases plays_bind.mp play with ⟨a, es', es'', rfl, hp, hf⟩ | ⟨failure, hp, -⟩ | ⟨hp, -⟩
  · rw [List.length_append]
    exact Nat.add_le_add (first _ _ hp) (rest a _ _ hf)
  · exact Nat.le_add_right_of_le (first _ _ hp)
  · exact Nat.le_add_right_of_le (first _ _ hp)

/-- A part that makes no calls adds none. -/
theorem CallsAtMost.after {f : α → Program β} (first : p.CallsAtMost 0)
    (rest : ∀ a, (f a).CallsAtMost more) : (p >>= f).CallsAtMost more :=
  (first.bind rest).mono (Nat.le_of_eq (Nat.zero_add more))

theorem CallsAtMost.recover {f : Failure → Program α} (first : p.CallsAtMost most)
    (instead : ∀ failure, (f failure).CallsAtMost 0) : (p.recover f).CallsAtMost most := by
  intro es outcome play
  rcases plays_recover.mp play with ⟨hp, -⟩ | ⟨failure, es', es'', rfl, hp, hf⟩
  · exact first _ _ hp
  · rw [List.length_append]
    exact Nat.add_le_add (first _ _ hp) (instead failure _ _ hf)

theorem callsAtMost_pure (a : α) : (pure a : Program α).CallsAtMost 0 := by
  rintro es outcome ⟨rfl, -⟩
  exact Nat.le_refl 0

theorem callsAtMost_fail (failure : Failure) : (fail failure : Program α).CallsAtMost 0 := by
  rintro es outcome ⟨rfl, -⟩
  exact Nat.le_refl 0

theorem callsAtMost_note (level : Level) (message : String) : (note level message).CallsAtMost 0 :=
  callsAtMost_pure ()

theorem callsAtMost_rest (milliseconds : Nat) : (rest milliseconds).CallsAtMost 0 :=
  callsAtMost_pure ()

theorem callsAtMost_remotely_request (operation resource : String) (call : Invocation)
    (read : Reply → Except Failure α) :
    ((request call read).remotely operation resource).CallsAtMost 1 := by
  intro es outcome play
  obtain ⟨reply, rfl, -⟩ := plays_remotely_request.mp play
  exact Nat.le_refl 1

theorem callsBeforeCut_pure (a : α) : (pure a : Program α).CallsBeforeCut least :=
  fun _ play => nomatch play.2

theorem callsBeforeCut_fail (failure : Failure) : (fail failure : Program α).CallsBeforeCut least :=
  fun _ play => nomatch play.2

theorem callsBeforeCut_note (level : Level) (message : String) :
    (note level message).CallsBeforeCut least := callsBeforeCut_pure ()

theorem callsBeforeCut_rest (milliseconds : Nat) : (rest milliseconds).CallsBeforeCut least :=
  callsBeforeCut_pure ()

theorem callsBeforeCut_remotely_request (operation resource : String) (call : Invocation)
    (read : Reply → Except Failure α) :
    ((request call read).remotely operation resource).CallsBeforeCut least := by
  intro es play
  obtain ⟨reply, -, ⟨a, -, same⟩ | ⟨cause, -, same⟩⟩ := plays_remotely_request.mp play
  · cases same
  · cases same

theorem CallsBeforeCut.bind {f : α → Program β} (first : p.CallsBeforeCut least)
    (rest : ∀ a, (f a).CallsBeforeCut least) : (p >>= f).CallsBeforeCut least := by
  intro es play
  rcases plays_bind.mp play with ⟨a, es', es'', rfl, -, hf⟩ | ⟨failure, -, same⟩ | ⟨hp, -⟩
  · rw [List.length_append]
    exact Nat.le_add_left_of_le (rest a _ hf)
  · cases same
  · exact first _ hp

theorem CallsBeforeCut.recover {f : Failure → Program α} (first : p.CallsBeforeCut least)
    (instead : ∀ failure, (f failure).CallsBeforeCut least) : (p.recover f).CallsBeforeCut least := by
  intro es play
  rcases plays_recover.mp play with ⟨hp, -⟩ | ⟨failure, es', es'', rfl, -, hf⟩
  · exact first _ hp
  · rw [List.length_append]
    exact Nat.le_add_left_of_le (instead failure _ hf)

end

end ClusterStack.Program
