import ClusterStack.Failure
/-!
# Programs

What a command does to the world outside: it has the `aws` program run, writes log lines and pauses.
A program is the tree of these actions, where what follows a call depends on the reply to it. It
ends with a result or with a failure; `unfinished` is neither, and marks where a bound on a
repetition that has none of its own was used up.

`run` carries a program out against any behaviour of the outside and records what was done.
-/
namespace ClusterStack

/-- One run of the `aws` program. Identifiers that come from a reply are passed on as they were
received, whatever they are. -/
structure Invocation where
  service : String
  operation : String
  arguments : List Json
  /-- The region to call, or the one that the `aws` program is set up for. -/
  region : Option String
  profile : Option String
  deriving Inhabited

inductive StartFault
  | system (fault : SystemFault)
  | value (reason : String)
  | crash (reason : String)
  deriving DecidableEq, Repr

def StartFault.failure : StartFault → Failure
  | .system fault => .system fault
  | .value reason => .value (.stated reason)
  | .crash reason => .crash reason

inductive Reply
  | exited (code : Int) (output errors : List UInt8)
  | notStarted (fault : StartFault)

inductive Level
  | debug
  | info
  | error
  deriving DecidableEq, Repr

inductive Action
  | invoked (call : Invocation)
  | logged (level : Level) (message : String)
  | paused (milliseconds : Nat)

/-- A tree of actions on the outside, with results at its ends. -/
inductive Program (α : Type)
  | done (a : α)
  | fail (failure : Failure)
  | unfinished
  | invoke (call : Invocation) (next : Reply → Program α)
  | log (level : Level) (message : String) (next : Program α)
  | pause (milliseconds : Nat) (next : Program α)

namespace Program

variable {α β : Type}

protected def bind : Program α → (α → Program β) → Program β
  | .done a, f => f a
  | .fail failure, _ => .fail failure
  | .unfinished, _ => .unfinished
  | .invoke call next, f => .invoke call fun reply => (next reply).bind f
  | .log level message next, f => .log level message (next.bind f)
  | .pause milliseconds next, f => .pause milliseconds (next.bind f)

instance : Monad Program where
  pure := .done
  bind := Program.bind

/-- A program with another one in place of each failure. -/
def recover : Program α → (Failure → Program α) → Program α
  | .done a, _ => .done a
  | .fail failure, f => f failure
  | .unfinished, _ => .unfinished
  | .invoke call next, f => .invoke call fun reply => (next reply).recover f
  | .log level message next, f => .log level message (next.recover f)
  | .pause milliseconds next, f => .pause milliseconds (next.recover f)

def mapFailure (f : Failure → Failure) (p : Program α) : Program α :=
  p.recover fun failure => .fail (f failure)

def ofExcept : Except Failure α → Program α
  | .ok a => .done a
  | .error failure => .fail failure

/-- A program whose failures of a call are those of the named operation on the named resource. -/
def remotely (operation resource : String) (p : Program α) : Program α :=
  p.mapFailure (Failure.ofCall operation resource)

def request (call : Invocation) (read : Reply → Except Failure α) : Program α :=
  .invoke call fun reply => ofExcept (read reply)

def note (level : Level) (message : String) : Program Unit := .log level message (.done ())

def shown (t : Option Text) : String := (t.map Text.toString).getD "None"

def rest (milliseconds : Nat) : Program Unit := .pause milliseconds (.done ())

end Program

inductive Outcome (α : Type)
  | done (a : α)
  | failed (failure : Failure)
  | unfinished

/-- A behaviour of the outside: the reply to a call and how the outside goes on. -/
abbrev Backend (σ : Type) := σ → Invocation → Reply × σ

structure Run (σ α : Type) where
  outcome : Outcome α
  trace : List Action
  state : σ

def Run.after {σ α : Type} (action : Action) (r : Run σ α) : Run σ α :=
  { r with trace := action :: r.trace }

/-- Carries a program out against a behaviour of the outside. -/
def Program.run {σ α : Type} (backend : Backend σ) : Program α → σ → Run σ α
  | .done a, s => ⟨.done a, [], s⟩
  | .fail failure, s => ⟨.failed failure, [], s⟩
  | .unfinished, s => ⟨.unfinished, [], s⟩
  | .invoke call next, s =>
    let (reply, s') := backend s call
    ((next reply).run backend s').after (.invoked call)
  | .log level message next, s => (next.run backend s).after (.logged level message)
  | .pause milliseconds next, s => (next.run backend s).after (.paused milliseconds)

end ClusterStack
