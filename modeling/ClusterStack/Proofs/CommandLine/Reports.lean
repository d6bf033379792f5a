import ClusterStack.CommandLine.Session
import ClusterStack.Proofs.Cluster.Unforeseen
import ClusterStack.Proofs.Rehearsals
/-!
# What a session reports

A session that has a request succeeds, or it reports the failure of its configuration or command, or it
breaks off. It breaks off for the failures that the command has not foreseen, and for no other: those of
the configuration and the options are all reported.
-/
namespace ClusterStack.CommandLine

variable {config : Cluster.Config} {pages : Nat} {input : String} {es : List Exchange}

namespace Order

/-- The order with the answer of the owner of the cluster to the question. -/
def settled (input : String) : Order → Order
  | .down options => .down ⟨options.force || (firstLine? input).any isYes⟩
  | order => order

def operator (config : Cluster.Config) (pages : Nat) : Order → Cluster.Operator
  | .up options => operatorFor config options.instanceType pages
  | _ => operatorFor config none pages

theorem operator_template (config : Cluster.Config) (pages : Nat) (order : Order) :
    (order.operator config pages).template = .ofExcept (.ok Template.packaged) := by
  cases order <;> rfl

def command : Order → Cluster.Command
  | .up options => .creation options
  | .down options => .deletion options
  | .scale options => .resizing options
  | .list => .listing

def output : (order : Order) → order.command.Answer → String
  | .list, rows => Cluster.ContainerRow.table rows ++ "\n"
  | .up _, _ | .down _, _ | .scale _, _ => ""

theorem plays_confirmed_bind {order : Order} {f : Order → Program String} {outcome : Outcome String}
    (h : (order.confirmed config input >>= f).Plays es outcome) :
    (f (order.settled input)).Plays es outcome := by
  cases order with
  | down options =>
      obtain ⟨forced⟩ := options
      cases forced with
      | true => exact h
      | false =>
          replace h : (deletionAgreed config.cluster input >>= fun agreed =>
            (pure (.down ⟨agreed⟩) : Program Order) >>= f).Plays es outcome := by
              rw [← Program.bind_assoc]
              exact h
          unfold deletionAgreed at h
          unfold settled
          cases line : firstLine? input with
          | none =>
              rw [line] at h
              exact h
          | some answer =>
              rw [line] at h
              exact h
  | _ => exact h

theorem plays_noted {α : Type} {p : Program α} {message : α → String} {outcome : Outcome String}
    (h : (do
      let a ← p
      Program.note .info (message a)
      pure "" : Program String).Plays es outcome) :
    ∃ inner, p.Plays es inner ∧ outcome = inner.map fun _ => "" := by
  obtain ⟨first, inner, rest, rfl, made, follows⟩ := Program.follows_of_plays h
  obtain ⟨rfl, same⟩ : rest = [] ∧ outcome = inner.map fun _ => "" := by
    cases inner <;> exact follows
  rw [List.append_nil]
  exact ⟨inner, made, same⟩

/-- An order is carried out by one command, and its output depends on the answer alone. -/
theorem plays_program {order : Order} {outcome : Outcome String}
    (h : (order.program config pages).Plays es outcome) :
    ∃ inner, ((order.operator config pages).perform order.command).Plays es inner ∧
      outcome = inner.map order.output := by
  cases order with
  | list => exact Program.plays_map.mp h
  | _ => exact plays_noted h

end Order

namespace Request

variable {request : Request}

theorem config_error {environment : List (String × String)} {failure : Failure}
    (h : request.config environment = .error failure) : isReported failure = true := by
  unfold config Cluster.Settings.config Cluster.Config.checked at h
  split at h
  · cases h
  · cases h
    rfl

/-- A request with unfit options fails for them, and otherwise its command is carried out. -/
theorem plays_program {outcome : Outcome String}
    (h : (request.program config input pages).Plays es outcome) :
    (∃ failure, request.order = .error failure ∧ es = [] ∧ outcome = .failed failure) ∨
    ∃ order inner, request.order = .ok order ∧
      (((order.settled input).operator config pages).perform (order.settled input).command).Plays es
        inner ∧ outcome = inner.map (order.settled input).output := by
  unfold program at h
  cases ordered : request.order with
  | error failure =>
      rw [ordered] at h
      exact .inl ⟨failure, rfl, h⟩
  | ok order =>
      rw [ordered] at h
      obtain ⟨inner, play, same⟩ := Order.plays_program (Order.plays_confirmed_bind h)
      exact .inr ⟨order, inner, rfl, play, same⟩

end Request

section

variable {σ : Type} (backend : Backend σ) (terminal : Terminal) (request : Request) (s : σ)

/-- The command comes to a failure that it has not foreseen. -/
inductive Breaks : Failure → Prop
  | command {config : Cluster.Config} {order : Order} {failure : Failure} :
      request.config terminal.environment = .ok config → request.order = .ok order →
      ((order.settled terminal.input).operator config terminal.pages).Unforeseen
        (order.settled terminal.input).command
        ((request.program config terminal.input terminal.pages).exchanges backend s) failure →
      Breaks failure

variable {backend terminal request s} {failure : Failure}

end

end ClusterStack.CommandLine
