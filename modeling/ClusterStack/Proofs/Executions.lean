import ClusterStack.Proofs.Faults
import ClusterStack.Proofs.Runs
/-!
# Runs against known answers

Where it is known what the outside answers, a run is computed step by step: the exchanges that it goes
through, its ending and the state in which it leaves the outside.
-/
namespace ClusterStack.Program

variable {σ α β : Type} (backend : Backend σ)

/-- A reply in a run is the answer of the outside in the state that it is asked in. -/
theorem reply_of_exchanges {p : Program α} {s : σ} {e : Exchange} {es : List Exchange}
    (h : p.exchanges backend s = e :: es) : e.reply = (backend s e.call).1 := by
  induction p with
  | done a => cases h
  | fail failure => cases h
  | unfinished => cases h
  | invoke call next ih =>
      cases h
      rfl
  | log level message next ih => exact ih h
  | pause milliseconds next ih => exact ih h

theorem state_run (p : Program α) (s : σ) : (p.run backend s).state =
    (p.exchanges backend s).foldl (fun state e => (backend state e.call).2) s := by
  induction p generalizing s with
  | done a => rfl
  | fail failure => rfl
  | unfinished => rfl
  | invoke call next ih => exact ih _ _
  | log level message next ih => exact ih s
  | pause milliseconds next ih => exact ih s

theorem exchanges_bind (p : Program α) (f : α → Program β) (s : σ) :
    (p >>= f).exchanges backend s = p.exchanges backend s ++
      match (p.run backend s).outcome with
      | .done a => (f a).exchanges backend (p.run backend s).state
      | _ => [] := by
  induction p generalizing s with
  | done a => rfl
  | fail failure => rfl
  | unfinished => rfl
  | invoke call next ih => exact congrArg (_ :: ·) (ih _ _)
  | log level message next ih => exact ih s
  | pause milliseconds next ih => exact ih s

/-- From the state, the program goes through these exchanges, ends so and leaves this state. -/
structure Leads (p : Program α) (s : σ) (es : List Exchange) (outcome : Outcome α) (s' : σ) :
    Prop where
  through : p.exchanges backend s = es
  ending : (p.run backend s).outcome = outcome
  leaves : (p.run backend s).state = s'

section

variable {backend} {p : Program α} {f : α → Program β} {s s' s'' : σ} {es es' : List Exchange}

theorem Leads.bind {a : α} {outcome : Outcome β} (first : p.Leads backend s es (.done a) s')
    (rest : (f a).Leads backend s' es' outcome s'') :
    (p >>= f).Leads backend s (es ++ es') outcome s'' := by
  have shape := run_bind backend p f s
  rw [Run.andThen, first.ending, first.leaves] at shape
  refine ⟨?_, ?_, ?_⟩
  · rw [exchanges_bind, first.through, first.ending, first.leaves]
    exact congrArg (es ++ ·) rest.through
  · rw [shape]
    exact rest.ending
  · rw [shape]
    exact rest.leaves

theorem Leads.bind_failed {failure : Failure} (first : p.Leads backend s es (.failed failure) s') :
    (p >>= f).Leads backend s es (.failed failure) s' := by
  have shape := run_bind backend p f s
  rw [Run.andThen, first.ending, first.leaves] at shape
  refine ⟨?_, ?_, ?_⟩
  · rw [exchanges_bind, first.through, first.ending, List.append_nil]
  · rw [shape]
  · rw [shape]

theorem leads_pure (a : α) : (pure a : Program α).Leads backend s [] (.done a) s := ⟨rfl, rfl, rfl⟩

theorem leads_fail (failure : Failure) :
    (fail failure : Program α).Leads backend s [] (.failed failure) s := ⟨rfl, rfl, rfl⟩

theorem leads_note (level : Level) (message : String) :
    (note level message).Leads backend s [] (.done ()) s := ⟨rfl, rfl, rfl⟩

variable (backend) in
theorem Asks.leads {call : Invocation} {read : Reply → Except Failure α} (asks : p.Asks call read)
    (s : σ) : p.Leads backend s [⟨call, (backend s call).1⟩]
      (.ofExcept (read (backend s call).1)) (backend s call).2 := by
  obtain ⟨reply, through, ending⟩ := asks _ _ (plays_run backend p s)
  have answered : reply = (backend s call).1 := reply_of_exchanges backend through
  rw [← answered]
  refine ⟨through, ending, ?_⟩
  rw [state_run, through]
  rfl

end

end ClusterStack.Program
