import ClusterStack.Proofs.Exchanges
/-!
# Runs of composed programs

The run of two programs in a row is the run of the first one, continued from the state in which it
leaves the outside by the run of the second one. Failures and recovery go along the same lines. These
equations are what a run is computed with when its notes and pauses matter too.
-/
namespace ClusterStack

variable {σ α β : Type}

namespace Run

def afterAll (actions : List Action) (r : Run σ α) : Run σ α :=
  { r with trace := actions ++ r.trace }

/-- The run continued with its result; one without a result stops where it is. -/
def andThen (r : Run σ α) (next : α → σ → Run σ β) : Run σ β :=
  match r.outcome with
  | .done a => (next a r.state).afterAll r.trace
  | .failed failure => ⟨.failed failure, r.trace, r.state⟩
  | .unfinished => ⟨.unfinished, r.trace, r.state⟩

def orElse (r : Run σ α) (instead : Failure → σ → Run σ α) : Run σ α :=
  match r.outcome with
  | .failed failure => (instead failure r.state).afterAll r.trace
  | _ => r

theorem after_andThen (action : Action) (r : Run σ α) (next : α → σ → Run σ β) :
    (r.after action).andThen next = (r.andThen next).after action := by
  obtain ⟨outcome, trace, state⟩ := r
  cases outcome <;> rfl

theorem after_orElse (action : Action) (r : Run σ α) (instead : Failure → σ → Run σ α) :
    (r.after action).orElse instead = (r.orElse instead).after action := by
  obtain ⟨outcome, trace, state⟩ := r
  cases outcome <;> rfl

end Run

def Action.isNote : Action → Bool
  | .logged _ _ => true
  | _ => false

namespace Run

/-- The run without its notes: its calls and pauses are left. -/
def bare (r : Run σ α) : Run σ α :=
  { r with trace := r.trace.filter fun action => !action.isNote }

theorem bare_afterAll (actions : List Action) (r : Run σ α) :
    (r.afterAll actions).bare = r.bare.afterAll (actions.filter fun action => !action.isNote) := by
  simp only [bare, afterAll, List.filter_append]

theorem bare_andThen (r : Run σ α) (next : α → σ → Run σ β) :
    (r.andThen next).bare = r.bare.andThen fun a s => (next a s).bare := by
  obtain ⟨outcome, trace, state⟩ := r
  cases outcome with
  | done a => exact bare_afterAll trace (next a state)
  | failed failure => rfl
  | unfinished => rfl

theorem afterAll_afterAll (first rest : List Action) (r : Run σ α) :
    (r.afterAll rest).afterAll first = r.afterAll (first ++ rest) := by
  simp only [afterAll, List.append_assoc]

end Run

namespace Program

variable (backend : Backend σ)

theorem run_bind (p : Program α) (f : α → Program β) (s : σ) :
    (p >>= f).run backend s = (p.run backend s).andThen fun a s' => (f a).run backend s' := by
  induction p generalizing s with
  | done a => rfl
  | fail failure => rfl
  | unfinished => rfl
  | invoke call next ih =>
      change Run.after _ ((next _ >>= f).run backend _) = (Run.after _ _).andThen _
      rw [ih, Run.after_andThen]
  | log level message next ih =>
      change Run.after _ ((next >>= f).run backend s) = (Run.after _ _).andThen _
      rw [ih, Run.after_andThen]
  | pause milliseconds next ih =>
      change Run.after _ ((next >>= f).run backend s) = (Run.after _ _).andThen _
      rw [ih, Run.after_andThen]

theorem run_recover (p : Program α) (f : Failure → Program α) (s : σ) :
    (p.recover f).run backend s =
      (p.run backend s).orElse fun failure s' => (f failure).run backend s' := by
  induction p generalizing s with
  | done a => rfl
  | fail failure => rfl
  | unfinished => rfl
  | invoke call next ih =>
      change Run.after _ ((recover (next _) f).run backend _) = (Run.after _ _).orElse _
      rw [ih, Run.after_orElse]
  | log level message next ih =>
      change Run.after _ ((recover next f).run backend s) = (Run.after _ _).orElse _
      rw [ih, Run.after_orElse]
  | pause milliseconds next ih =>
      change Run.after _ ((recover next f).run backend s) = (Run.after _ _).orElse _
      rw [ih, Run.after_orElse]

theorem run_ofExcept (e : Except Failure α) (s : σ) :
    (ofExcept e).run backend s = ⟨.ofExcept e, [], s⟩ := by
  cases e <;> rfl

theorem run_request (call : Invocation) (read : Reply → Except Failure α) (s : σ) :
    (request call read).run backend s =
      ⟨.ofExcept (read (backend s call).1), [.invoked call], (backend s call).2⟩ := by
  change Run.after _ ((ofExcept (read (backend s call).1)).run backend _) = _
  rw [run_ofExcept]
  rfl

theorem run_remotely_request (operation resource : String) (call : Invocation)
    (read : Reply → Except Failure α) (s : σ) :
    ((request call read).remotely operation resource).run backend s =
      ⟨(Outcome.ofExcept (read (backend s call).1)).mapFailure (Failure.ofCall operation resource),
        [.invoked call], (backend s call).2⟩ := by
  rw [remotely, mapFailure, run_recover, run_request]
  cases read (backend s call).1 <;> rfl

section

variable {backend} {s : σ}

theorem done_of_bind {p : Program α} {f : α → Program β} {b : β}
    (ended : ((p >>= f).run backend s).outcome = .done b) :
    ∃ a, (p.run backend s).outcome = .done a ∧
      ((f a).run backend (p.run backend s).state).outcome = .done b := by
  rw [run_bind] at ended
  cases came : (p.run backend s).outcome with
  | done a =>
      simp only [Run.andThen, came] at ended
      exact ⟨a, rfl, ended⟩
  | failed failure =>
      simp only [Run.andThen, came] at ended
      cases ended
  | unfinished =>
      simp only [Run.andThen, came] at ended
      cases ended

theorem done_of_mapFailure {p : Program α} {g : Failure → Failure} {a : α}
    (ended : ((p.mapFailure g).run backend s).outcome = .done a) :
    (p.run backend s).outcome = .done a := by
  rw [mapFailure, run_recover] at ended
  cases came : (p.run backend s).outcome with
  | done b =>
      simp only [Run.orElse, came] at ended
      exact ended
  | failed failure =>
      simp only [Run.orElse, came] at ended
      cases ended
  | unfinished =>
      simp only [Run.orElse, came] at ended
      cases ended

theorem done_of_request {call : Invocation} {read : Reply → Except Failure α} {a : α}
    (ended : ((request call read).run backend s).outcome = .done a) :
    read (backend s call).1 = .ok a := by
  change ((ofExcept (read (backend s call).1)).run backend _).outcome = _ at ended
  rw [run_ofExcept] at ended
  cases came : read (backend s call).1 with
  | ok b =>
      rw [came] at ended
      cases ended
      rfl
  | error failure =>
      rw [came] at ended
      cases ended

end

end Program

end ClusterStack
