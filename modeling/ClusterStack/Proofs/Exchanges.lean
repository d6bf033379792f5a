import ClusterStack.Aws.Call
/-!
# Exchanges with the outside

What a program learns from the outside are the replies to its calls. A play of a program is a list of
calls with their replies that the program goes through to an ending; every run is one, whatever the
outside does. Plays of composed programs are taken apart here, so that what is known of the parts
tells of the whole. Notes and pauses leave no mark on a play.
-/
namespace ClusterStack

structure Exchange where
  call : Invocation
  reply : Reply

def Action.call? : Action → Option Invocation
  | .invoked call => some call
  | _ => none

/-- The replies to the calls of an operation. -/
def repliesTo (operation : String) (es : List Exchange) : List Reply :=
  (es.filter fun e => e.call.operation == operation).map Exchange.reply

section

variable {operation : String} {es : List Exchange}

theorem repliesTo_append (operation : String) (first rest : List Exchange) :
    repliesTo operation (first ++ rest) = repliesTo operation first ++ repliesTo operation rest := by
  simp only [repliesTo, List.filter_append, List.map_append]

theorem repliesTo_of_others (others : ∀ e ∈ es, e.call.operation ≠ operation) :
    repliesTo operation es = [] := by
  rw [repliesTo, List.map_eq_nil_iff, List.filter_eq_nil_iff]
  intro e member same
  exact others e member (beq_iff_eq.mp same)

theorem repliesTo_of_all (all : ∀ e ∈ es, e.call.operation = operation) :
    repliesTo operation es = es.map Exchange.reply := by
  rw [repliesTo, List.filter_eq_self.mpr fun e member => beq_iff_eq.mpr (all e member)]

end

namespace Outcome

variable {α : Type}

def ofExcept : Except Failure α → Outcome α
  | .ok a => .done a
  | .error failure => .failed failure

def mapFailure (f : Failure → Failure) : Outcome α → Outcome α
  | .failed failure => .failed (f failure)
  | outcome => outcome

def map {β : Type} (f : α → β) : Outcome α → Outcome β
  | .done a => .done (f a)
  | .failed failure => .failed failure
  | .unfinished => .unfinished

end Outcome

namespace Program

variable {α β σ : Type}

def exchanges (backend : Backend σ) : Program α → σ → List Exchange
  | .done _, _ | .fail _, _ | .unfinished, _ => []
  | .invoke call next, s =>
    let (reply, s') := backend s call
    ⟨call, reply⟩ :: (next reply).exchanges backend s'
  | .log _ _ next, s => next.exchanges backend s
  | .pause _ next, s => next.exchanges backend s

theorem calls_exchanges (backend : Backend σ) (p : Program α) (s : σ) :
    (p.exchanges backend s).map Exchange.call = (p.run backend s).trace.filterMap Action.call? := by
  induction p generalizing s with
  | done a => rfl
  | fail failure => rfl
  | unfinished => rfl
  | invoke call next ih => exact congrArg (call :: ·) (ih _ _)
  | log level message next ih => exact ih s
  | pause milliseconds next ih => exact ih s

/-- The program may go through these exchanges to this ending. -/
def Plays : Program α → List Exchange → Outcome α → Prop
  | .done a, es, outcome => es = [] ∧ outcome = .done a
  | .fail failure, es, outcome => es = [] ∧ outcome = .failed failure
  | .unfinished, es, outcome => es = [] ∧ outcome = .unfinished
  | .invoke call next, es, outcome =>
    ∃ reply rest, es = ⟨call, reply⟩ :: rest ∧ (next reply).Plays rest outcome
  | .log _ _ next, es, outcome => next.Plays es outcome
  | .pause _ next, es, outcome => next.Plays es outcome

theorem plays_run (backend : Backend σ) (p : Program α) (s : σ) :
    p.Plays (p.exchanges backend s) (p.run backend s).outcome := by
  induction p generalizing s with
  | done a => exact ⟨rfl, rfl⟩
  | fail failure => exact ⟨rfl, rfl⟩
  | unfinished => exact ⟨rfl, rfl⟩
  | invoke call next ih => exact ⟨_, _, rfl, ih _ _⟩
  | log level message next ih => exact ih s
  | pause milliseconds next ih => exact ih s

theorem plays_note {level : Level} {message : String} {f : Unit → Program α} {es : List Exchange}
    {outcome : Outcome α} :
    (note level message >>= f).Plays es outcome ↔ (f ()).Plays es outcome := Iff.rfl

theorem bind_assoc {γ : Type} (p : Program α) (f : α → Program β) (g : β → Program γ) :
    p >>= f >>= g = p >>= fun a => f a >>= g := by
  induction p with
  | done a => rfl
  | fail failure => rfl
  | unfinished => rfl
  | invoke call next ih => exact congrArg (invoke call) (funext ih)
  | log level message next ih => exact congrArg (log level message) ih
  | pause milliseconds next ih => exact congrArg (pause milliseconds) ih

theorem bind_pure (p : Program α) : p >>= pure = p := by
  induction p with
  | done a => rfl
  | fail failure => rfl
  | unfinished => rfl
  | invoke call next ih => exact congrArg (invoke call) (funext ih)
  | log level message next ih => exact congrArg (log level message) ih
  | pause milliseconds next ih => exact congrArg (pause milliseconds) ih

/-- A play of two programs in a row either ends in the first one or goes on with the second. -/
theorem plays_bind {p : Program α} {f : α → Program β} {es : List Exchange} {outcome : Outcome β} :
    (p >>= f).Plays es outcome ↔
      (∃ a first rest, es = first ++ rest ∧ p.Plays first (.done a) ∧ (f a).Plays rest outcome) ∨
      (∃ failure, p.Plays es (.failed failure) ∧ outcome = .failed failure) ∨
      (p.Plays es .unfinished ∧ outcome = .unfinished) := by
  induction p generalizing es with
  | done a =>
      constructor
      · intro h
        exact .inl ⟨a, [], es, rfl, ⟨rfl, rfl⟩, h⟩
      · rintro (⟨b, first, rest, rfl, ⟨rfl, hb⟩, h⟩ | ⟨failure, ⟨-, h⟩, -⟩ | ⟨⟨-, h⟩, -⟩)
        · cases hb
          exact h
        · cases h
        · cases h
  | fail failure =>
      constructor
      · rintro ⟨rfl, rfl⟩
        exact .inr (.inl ⟨failure, ⟨rfl, rfl⟩, rfl⟩)
      · rintro (⟨b, first, rest, -, ⟨-, h⟩, -⟩ | ⟨failure', ⟨rfl, h⟩, rfl⟩ | ⟨⟨-, h⟩, -⟩)
        · cases h
        · cases h
          exact ⟨rfl, rfl⟩
        · cases h
  | unfinished =>
      constructor
      · rintro ⟨rfl, rfl⟩
        exact .inr (.inr ⟨⟨rfl, rfl⟩, rfl⟩)
      · rintro (⟨b, first, rest, -, ⟨-, h⟩, -⟩ | ⟨failure, ⟨-, h⟩, -⟩ | ⟨⟨rfl, -⟩, rfl⟩)
        · cases h
        · cases h
        · exact ⟨rfl, rfl⟩
  | invoke call next ih =>
      constructor
      · rintro ⟨reply, tail, rfl, h⟩
        rcases (ih reply).mp h with
          ⟨a, first, rest, rfl, ha, hf⟩ | ⟨failure, hp, rfl⟩ | ⟨hp, rfl⟩
        · exact .inl ⟨a, ⟨call, reply⟩ :: first, rest, rfl, ⟨reply, first, rfl, ha⟩, hf⟩
        · exact .inr (.inl ⟨failure, ⟨reply, tail, rfl, hp⟩, rfl⟩)
        · exact .inr (.inr ⟨⟨reply, tail, rfl, hp⟩, rfl⟩)
      · rintro (⟨a, first, rest, rfl, ⟨reply, tail, rfl, ha⟩, hf⟩ |
          ⟨failure, ⟨reply, tail, rfl, hp⟩, rfl⟩ | ⟨⟨reply, tail, rfl, hp⟩, rfl⟩)
        · exact ⟨reply, tail ++ rest, rfl, (ih reply).mpr (.inl ⟨a, tail, rest, rfl, ha, hf⟩)⟩
        · exact ⟨reply, tail, rfl, (ih reply).mpr (.inr (.inl ⟨failure, hp, rfl⟩))⟩
        · exact ⟨reply, tail, rfl, (ih reply).mpr (.inr (.inr ⟨hp, rfl⟩))⟩
  | log level message next ih => exact ih
  | pause milliseconds next ih => exact ih

/-- What is played after a part with this ending, if the program goes on with `f`. -/
def Follows (f : α → Program β) : Outcome α → List Exchange → Outcome β → Prop
  | .done a, es, outcome => (f a).Plays es outcome
  | .failed failure, es, outcome => es = [] ∧ outcome = .failed failure
  | .unfinished, es, outcome => es = [] ∧ outcome = .unfinished

theorem follows_of_plays {p : Program α} {f : α → Program β} {es : List Exchange}
    {outcome : Outcome β} (h : (p >>= f).Plays es outcome) :
    ∃ first inner rest, es = first ++ rest ∧ p.Plays first inner ∧ Follows f inner rest outcome := by
  rcases plays_bind.mp h with ⟨a, first, rest, shape, hp, hf⟩ | ⟨failure, hp, same⟩ | ⟨hp, same⟩
  · exact ⟨first, .done a, rest, shape, hp, hf⟩
  · exact ⟨es, .failed failure, [], (List.append_nil es).symm, hp, rfl, same⟩
  · exact ⟨es, .unfinished, [], (List.append_nil es).symm, hp, rfl, same⟩

/-- A play of a program that recovers from failures is one without failure, or a failing one with a
play of what stands in for the failure. -/
theorem plays_recover {p : Program α} {f : Failure → Program α} {es : List Exchange}
    {outcome : Outcome α} :
    (p.recover f).Plays es outcome ↔
      (p.Plays es outcome ∧ ∀ failure, outcome ≠ .failed failure) ∨
      (∃ failure first rest, es = first ++ rest ∧ p.Plays first (.failed failure) ∧
        (f failure).Plays rest outcome) := by
  induction p generalizing es with
  | done a =>
      constructor
      · rintro ⟨rfl, rfl⟩
        exact .inl ⟨⟨rfl, rfl⟩, fun failure h => by cases h⟩
      · rintro (⟨h, -⟩ | ⟨failure, first, rest, -, ⟨-, h⟩, -⟩)
        · exact h
        · cases h
  | fail failure =>
      constructor
      · intro h
        exact .inr ⟨failure, [], es, rfl, ⟨rfl, rfl⟩, h⟩
      · rintro (⟨⟨-, rfl⟩, h⟩ | ⟨failure', first, rest, rfl, ⟨rfl, hf⟩, h⟩)
        · exact absurd rfl (h failure)
        · cases hf
          exact h
  | unfinished =>
      constructor
      · rintro ⟨rfl, rfl⟩
        exact .inl ⟨⟨rfl, rfl⟩, fun failure h => by cases h⟩
      · rintro (⟨h, -⟩ | ⟨failure, first, rest, -, ⟨-, h⟩, -⟩)
        · exact h
        · cases h
  | invoke call next ih =>
      constructor
      · rintro ⟨reply, tail, rfl, h⟩
        rcases (ih reply).mp h with ⟨hp, hne⟩ | ⟨failure, first, rest, rfl, hp, hf⟩
        · exact .inl ⟨⟨reply, tail, rfl, hp⟩, hne⟩
        · exact .inr ⟨failure, ⟨call, reply⟩ :: first, rest, rfl, ⟨reply, first, rfl, hp⟩, hf⟩
      · rintro (⟨⟨reply, tail, rfl, hp⟩, hne⟩ |
          ⟨failure, first, rest, rfl, ⟨reply, tail, rfl, hp⟩, hf⟩)
        · exact ⟨reply, tail, rfl, (ih reply).mpr (.inl ⟨hp, hne⟩)⟩
        · exact ⟨reply, tail ++ rest, rfl, (ih reply).mpr (.inr ⟨failure, tail, rest, rfl, hp, hf⟩)⟩
  | log level message next ih => exact ih
  | pause milliseconds next ih => exact ih

theorem plays_map {p : Program α} {g : α → β} {es : List Exchange} {outcome : Outcome β} :
    (p >>= fun a => pure (g a)).Plays es outcome ↔
      ∃ inner, p.Plays es inner ∧ outcome = inner.map g := by
  constructor
  · intro h
    rcases plays_bind.mp h with
      ⟨a, first, rest, rfl, ha, rfl, rfl⟩ | ⟨failure, hp, rfl⟩ | ⟨hp, rfl⟩
    · rw [List.append_nil]
      exact ⟨_, ha, rfl⟩
    · exact ⟨_, hp, rfl⟩
    · exact ⟨_, hp, rfl⟩
  · rintro ⟨inner, hp, rfl⟩
    cases inner with
    | done a => exact plays_bind.mpr (.inl ⟨a, es, [], (List.append_nil es).symm, hp, rfl, rfl⟩)
    | failed failure => exact plays_bind.mpr (.inr (.inl ⟨failure, hp, rfl⟩))
    | unfinished => exact plays_bind.mpr (.inr (.inr ⟨hp, rfl⟩))

theorem plays_ofExcept {e : Except Failure α} {es : List Exchange} {outcome : Outcome α} :
    (ofExcept e).Plays es outcome ↔ es = [] ∧ outcome = .ofExcept e := by
  cases e <;> exact Iff.rfl

theorem plays_mapFailure {g : Failure → Failure} {p : Program α} {es : List Exchange}
    {outcome : Outcome α} :
    (p.mapFailure g).Plays es outcome ↔ ∃ inner, p.Plays es inner ∧ outcome = inner.mapFailure g := by
  refine plays_recover.trans ⟨?_, ?_⟩
  · rintro (⟨h, hne⟩ | ⟨failure, first, rest, rfl, hp, rfl, rfl⟩)
    · refine ⟨outcome, h, ?_⟩
      cases outcome with
      | failed failure => exact absurd rfl (hne failure)
      | done a => rfl
      | unfinished => rfl
    · rw [List.append_nil]
      exact ⟨_, hp, rfl⟩
  · rintro ⟨inner, hp, rfl⟩
    cases inner with
    | failed failure => exact .inr ⟨failure, es, [], (List.append_nil es).symm, hp, rfl, rfl⟩
    | done a => exact .inl ⟨hp, fun failure h => by cases h⟩
    | unfinished => exact .inl ⟨hp, fun failure h => by cases h⟩

theorem plays_request {call : Invocation} {read : Reply → Except Failure α} {es : List Exchange}
    {outcome : Outcome α} :
    (request call read).Plays es outcome ↔
      ∃ reply, es = [⟨call, reply⟩] ∧ outcome = .ofExcept (read reply) := by
  constructor
  · rintro ⟨reply, rest, rfl, h⟩
    obtain ⟨rfl, rfl⟩ := plays_ofExcept.mp h
    exact ⟨reply, rfl, rfl⟩
  · rintro ⟨reply, rfl, rfl⟩
    exact ⟨reply, [], rfl, plays_ofExcept.mpr ⟨rfl, rfl⟩⟩

theorem plays_remotely_request {operation resource : String} {call : Invocation}
    {read : Reply → Except Failure α} {es : List Exchange} {outcome : Outcome α} :
    ((request call read).remotely operation resource).Plays es outcome ↔
      ∃ reply, es = [⟨call, reply⟩] ∧
        ((∃ a, read reply = .ok a ∧ outcome = .done a) ∨
          ∃ cause, read reply = .error cause ∧
            outcome = .failed (Failure.ofCall operation resource cause)) := by
  refine plays_mapFailure.trans ⟨?_, ?_⟩
  · rintro ⟨inner, h, rfl⟩
    obtain ⟨reply, rfl, rfl⟩ := plays_request.mp h
    refine ⟨reply, rfl, ?_⟩
    cases hr : read reply with
    | ok a => exact .inl ⟨a, rfl, rfl⟩
    | error cause => exact .inr ⟨cause, rfl, rfl⟩
  · rintro ⟨reply, rfl, ⟨a, hr, rfl⟩ | ⟨cause, hr, rfl⟩⟩
    · exact ⟨.done a, plays_request.mpr ⟨reply, rfl, by rw [hr]; rfl⟩, rfl⟩
    · exact ⟨.failed cause, plays_request.mpr ⟨reply, rfl, by rw [hr]; rfl⟩, rfl⟩

theorem plays_remotely_request_bind {operation resource : String} {call : Invocation}
    {read : Reply → Except Failure α} {f : α → Program β} {es : List Exchange}
    {outcome : Outcome β} :
    ((request call read).remotely operation resource >>= f).Plays es outcome ↔
      ∃ reply rest, es = ⟨call, reply⟩ :: rest ∧
        ((∃ a, read reply = .ok a ∧ (f a).Plays rest outcome) ∨
          ∃ cause, read reply = .error cause ∧ rest = [] ∧
            outcome = .failed (Failure.ofCall operation resource cause)) := by
  constructor
  · intro h
    rcases plays_bind.mp h with
      ⟨a, first, rest, rfl, ha, hf⟩ | ⟨failure, hp, rfl⟩ | ⟨hp, rfl⟩
    · obtain ⟨reply, rfl, ⟨b, hr, hb⟩ | ⟨cause, -, hb⟩⟩ := plays_remotely_request.mp ha
      · cases hb
        exact ⟨reply, rest, rfl, .inl ⟨a, hr, hf⟩⟩
      · cases hb
    · obtain ⟨reply, rfl, ⟨b, -, hb⟩ | ⟨cause, hr, hb⟩⟩ := plays_remotely_request.mp hp
      · cases hb
      · cases hb
        exact ⟨reply, [], rfl, .inr ⟨cause, hr, rfl, rfl⟩⟩
    · obtain ⟨reply, rfl, ⟨b, -, hb⟩ | ⟨cause, -, hb⟩⟩ := plays_remotely_request.mp hp
      · cases hb
      · cases hb
  · rintro ⟨reply, rest, rfl, ⟨a, hr, hf⟩ | ⟨cause, hr, rfl, rfl⟩⟩
    · exact plays_bind.mpr (.inl ⟨a, [⟨call, reply⟩], rest, rfl,
        plays_remotely_request.mpr ⟨reply, rfl, .inl ⟨a, hr, rfl⟩⟩, hf⟩)
    · exact plays_bind.mpr (.inr (.inl ⟨_,
        plays_remotely_request.mpr ⟨reply, rfl, .inr ⟨cause, hr, rfl⟩⟩, rfl⟩))

def Silent (p : Program α) : Prop :=
  ∀ es outcome, p.Plays es outcome → es = [] ∧ outcome ≠ .unfinished

theorem silent_ofExcept (e : Except Failure α) : (ofExcept e).Silent := by
  intro es outcome h
  obtain ⟨rfl, rfl⟩ := plays_ofExcept.mp h
  cases e with
  | ok a => exact ⟨rfl, nofun⟩
  | error failure => exact ⟨rfl, nofun⟩

theorem Silent.remotely {p : Program α} (silent : p.Silent) (operation resource : String) :
    (p.remotely operation resource).Silent := by
  intro es outcome h
  obtain ⟨inner, hp, rfl⟩ := plays_mapFailure.mp h
  obtain ⟨rfl, ended⟩ := silent _ _ hp
  refine ⟨rfl, ?_⟩
  cases inner with
  | done a => exact nofun
  | failed failure => exact nofun
  | unfinished => exact absurd rfl ended

theorem Silent.bind {p : Program α} {f : α → Program β} (silent : p.Silent) {es : List Exchange}
    {outcome : Outcome β} (h : (p >>= f).Plays es outcome) :
    (es = [] ∧ ∃ failure, outcome = .failed failure) ∨ ∃ a, (f a).Plays es outcome := by
  rcases plays_bind.mp h with ⟨a, first, rest, rfl, hp, hf⟩ | ⟨failure, hp, rfl⟩ | ⟨hp, rfl⟩
  · obtain ⟨rfl, -⟩ := silent _ _ hp
    exact .inr ⟨a, hf⟩
  · obtain ⟨rfl, -⟩ := silent _ _ hp
    exact .inl ⟨rfl, failure, rfl⟩
  · exact absurd rfl (silent _ _ hp).2

/-- The program makes this one call, and comes to a result only by a reply that passes with it. -/
def Checks (p : Program α) (call : Invocation) (Passes : Reply → α → Prop) : Prop :=
  ∀ es outcome, p.Plays es outcome → ∃ reply, es = [⟨call, reply⟩] ∧
    ((∃ a, Passes reply a ∧ outcome = .done a) ∨ ∃ failure, outcome = .failed failure)

section

variable {call : Invocation} {Passes : Reply → α → Prop}

theorem checks_request {read : Reply → Except Failure α} :
    (request call read).Checks call fun reply a => read reply = .ok a := by
  intro es outcome h
  obtain ⟨reply, rfl, rfl⟩ := plays_request.mp h
  refine ⟨reply, rfl, ?_⟩
  cases hr : read reply with
  | ok a => exact .inl ⟨a, hr, rfl⟩
  | error failure => exact .inr ⟨failure, rfl⟩

theorem Checks.remotely {p : Program α} (checks : p.Checks call Passes)
    (operation resource : String) : (p.remotely operation resource).Checks call Passes := by
  intro es outcome h
  obtain ⟨inner, hp, rfl⟩ := plays_mapFailure.mp h
  obtain ⟨reply, rfl, ⟨a, passes, rfl⟩ | ⟨failure, rfl⟩⟩ := checks _ _ hp
  · exact ⟨reply, rfl, .inl ⟨a, passes, rfl⟩⟩
  · exact ⟨reply, rfl, .inr ⟨_, rfl⟩⟩

/-- A check followed by further ones that make no call is a check. -/
theorem Checks.andThen {p : Program α} {f : α → Program β} {Passes' : Reply → β → Prop}
    (checks : p.Checks call Passes)
    (further : ∀ reply a, Passes reply a → ∀ es outcome, (f a).Plays es outcome →
      es = [] ∧ ((∃ b, Passes' reply b ∧ outcome = .done b) ∨ ∃ failure, outcome = .failed failure)) :
    (p >>= f).Checks call Passes' := by
  intro es outcome h
  rcases plays_bind.mp h with ⟨b, first, rest, rfl, hp, hf⟩ | ⟨failure, hp, rfl⟩ | ⟨hp, rfl⟩
  · obtain ⟨reply, rfl, ⟨a, passes, same⟩ | ⟨failure, same⟩⟩ := checks _ _ hp
    · cases same
      obtain ⟨rfl, ends⟩ := further reply b passes rest outcome hf
      exact ⟨reply, rfl, ends⟩
    · cases same
  · obtain ⟨reply, rfl, -⟩ := checks _ _ hp
    exact ⟨reply, rfl, .inr ⟨failure, rfl⟩⟩
  · obtain ⟨reply, rfl, ⟨a, -, same⟩ | ⟨failure, same⟩⟩ := checks _ _ hp
    · cases same
    · cases same

theorem Checks.bind {p : Program α} {f : α → Program β} (checks : p.Checks call Passes)
    {es : List Exchange} {outcome : Outcome β} (h : (p >>= f).Plays es outcome) :
    ∃ reply rest, es = ⟨call, reply⟩ :: rest ∧
      ((rest = [] ∧ ∃ failure, outcome = .failed failure) ∨
        ∃ a, Passes reply a ∧ (f a).Plays rest outcome) := by
  rcases plays_bind.mp h with ⟨b, first, rest, rfl, hp, hf⟩ | ⟨failure, hp, rfl⟩ | ⟨hp, rfl⟩
  · obtain ⟨reply, rfl, ⟨a, passes, same⟩ | ⟨failure, same⟩⟩ := checks _ _ hp
    · cases same
      exact ⟨reply, rest, rfl, .inr ⟨b, passes, hf⟩⟩
    · cases same
  · obtain ⟨reply, rfl, -⟩ := checks _ _ hp
    exact ⟨reply, [], rfl, .inl ⟨rfl, failure, rfl⟩⟩
  · obtain ⟨reply, rfl, ⟨a, -, same⟩ | ⟨failure, same⟩⟩ := checks _ _ hp
    · cases same
    · cases same

end

/-- Every action of the program is an allowed one, whatever the replies are. -/
def Does (allowed : Action → Prop) : Program α → Prop
  | .done _ | .fail _ | .unfinished => True
  | .invoke call next => allowed (.invoked call) ∧ ∀ reply, (next reply).Does allowed
  | .log level message next => allowed (.logged level message) ∧ next.Does allowed
  | .pause milliseconds next => allowed (.paused milliseconds) ∧ next.Does allowed

section

variable {allowed : Action → Prop}

theorem Does.mono {others : Action → Prop} {p : Program α} (h : p.Does allowed)
    (more : ∀ action, allowed action → others action) : p.Does others := by
  induction p with
  | done a => trivial
  | fail failure => trivial
  | unfinished => trivial
  | invoke call next ih => exact ⟨more _ h.1, fun reply => ih reply (h.2 reply)⟩
  | log level message next ih => exact ⟨more _ h.1, ih h.2⟩
  | pause milliseconds next ih => exact ⟨more _ h.1, ih h.2⟩

theorem Does.bind {p : Program α} {f : α → Program β} (first : p.Does allowed)
    (rest : ∀ a, (f a).Does allowed) : (p >>= f).Does allowed := by
  induction p with
  | done a => exact rest a
  | fail failure => trivial
  | unfinished => trivial
  | invoke call next ih => exact ⟨first.1, fun reply => ih reply (first.2 reply)⟩
  | log level message next ih => exact ⟨first.1, ih first.2⟩
  | pause milliseconds next ih => exact ⟨first.1, ih first.2⟩

theorem Does.recover {p : Program α} {f : Failure → Program α} (first : p.Does allowed)
    (instead : ∀ failure, (f failure).Does allowed) : (p.recover f).Does allowed := by
  induction p with
  | done a => trivial
  | fail failure => exact instead failure
  | unfinished => trivial
  | invoke call next ih => exact ⟨first.1, fun reply => ih reply (first.2 reply)⟩
  | log level message next ih => exact ⟨first.1, ih first.2⟩
  | pause milliseconds next ih => exact ⟨first.1, ih first.2⟩

theorem Does.remotely {p : Program α} (operation resource : String) (h : p.Does allowed) :
    (p.remotely operation resource).Does allowed := h.recover fun _ => trivial

theorem does_foldlM {f : β → α → Program β} (h : ∀ b a, (f b a).Does allowed) (items : List α)
    (b : β) : (items.foldlM f b).Does allowed := by
  induction items generalizing b with
  | nil => trivial
  | cons a rest ih =>
      rw [List.foldlM_cons]
      exact (h b a).bind ih

theorem does_ofExcept (e : Except Failure α) : (ofExcept e).Does allowed := by
  cases e <;> trivial

theorem does_request {call : Invocation} {read : Reply → Except Failure α}
    (h : allowed (.invoked call)) : (request call read).Does allowed :=
  ⟨h, fun reply => does_ofExcept (read reply)⟩

theorem Does.trace {p : Program α} (h : p.Does allowed) (backend : Backend σ) (s : σ) :
    ∀ action ∈ (p.run backend s).trace, allowed action := by
  induction p generalizing s with
  | done a => exact nofun
  | fail failure => exact nofun
  | unfinished => exact nofun
  | invoke call next ih =>
      intro action member
      rcases List.mem_cons.mp member with rfl | later
      · exact h.1
      · exact ih _ (h.2 _) _ action later
  | log level message next ih =>
      intro action member
      rcases List.mem_cons.mp member with rfl | later
      · exact h.1
      · exact ih h.2 s action later
  | pause milliseconds next ih =>
      intro action member
      rcases List.mem_cons.mp member with rfl | later
      · exact h.1
      · exact ih h.2 s action later

theorem Does.plays {p : Program α} (h : p.Does allowed) {es : List Exchange} {outcome : Outcome α}
    (play : p.Plays es outcome) : ∀ e ∈ es, allowed (.invoked e.call) := by
  induction p generalizing es with
  | done a =>
      obtain ⟨rfl, -⟩ := play
      exact nofun
  | fail failure =>
      obtain ⟨rfl, -⟩ := play
      exact nofun
  | unfinished =>
      obtain ⟨rfl, -⟩ := play
      exact nofun
  | invoke call next ih =>
      obtain ⟨reply, rest, rfl, hrest⟩ := play
      intro e member
      rcases List.mem_cons.mp member with rfl | later
      · exact h.1
      · exact ih reply (h.2 reply) hrest e later
  | log level message next ih => exact ih h.2 play
  | pause milliseconds next ih => exact ih h.2 play

end

end Program

end ClusterStack
