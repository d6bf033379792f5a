import ClusterStack.Cluster.Deletion
import ClusterStack.Cluster.Listing
import ClusterStack.Cluster.Resizing
import ClusterStack.Proofs.Cluster.Guards
/-!
# Commands

A command is one of four, and starts with guards that ask nothing. They are all in front of its first
call, so that a command makes no call at all exactly if one of them bars it. What stands between the
guards and the first change differs from command to command.
-/
namespace ClusterStack.Cluster

inductive Command
  | creation (o : CreationOptions)
  | deletion (o : DeletionOptions)
  | resizing (o : ResizeOptions)
  | listing

def Command.Answer : Command → Type
  | .creation _ => Text
  | .deletion _ | .resizing _ => Unit
  | .listing => List ContainerRow

namespace Operator

variable (operator : Operator)

def perform : (command : Command) → Program command.Answer
  | .creation o => operator.create o
  | .deletion o => operator.delete o
  | .resizing o => operator.resize o
  | .listing => operator.list

/-- A guard that asks nothing bars the command with this failure. -/
inductive Barred : Command → Failure → Prop
  | creationNotAcknowledged {o : CreationOptions} : o.acknowledged = false →
      Barred (.creation o) (.refused .iamNotAcknowledged)
  | resizingNotAcknowledged {o : ResizeOptions} : o.acknowledged = false →
      Barred (.resizing o) (.refused .iamNotAcknowledged)
  | deletionNotConfirmed {o : DeletionOptions} : o.force = false →
      Barred (.deletion o) (.refused .deletionNotConfirmed)
  | clusterNotNamed (command : Command) : operator.config.cluster = "" →
      Barred command (.refused .clusterNotNamed)
  | sizeNotGiven {o : ResizeOptions} : nonempty? o.size = none →
      Barred (.resizing o) (.refused .sizeNotGiven)
  | creationSize {o : CreationOptions} {size : String} {failure : Failure} :
      nonempty? o.size = some size → sizeOfText size = .error failure → Barred (.creation o) failure
  | resizingSize {o : ResizeOptions} {size : String} {failure : Failure} :
      nonempty? o.size = some size → sizeOfText size = .error failure → Barred (.resizing o) failure

/-- The number that the option stands for, nothing if it is not given. -/
inductive Sized (o : CreationOptions) : Option Nat → Prop
  | notGiven : nonempty? o.size = none → Sized o none
  | given {size : String} {n : Nat} : nonempty? o.size = some size → sizeOfText size = .ok n →
      Sized o (some n)

variable {α : Type} {es : List Exchange}

theorem plays_givenSize_bind {o : CreationOptions} {f : Option Nat → Program α}
    {outcome : Outcome α} (h : (givenSize o >>= f).Plays es outcome) :
    (∃ size failure, nonempty? o.size = some size ∧ sizeOfText size = .error failure ∧ es = [] ∧
        outcome = .failed failure) ∨
      ∃ size, Sized o size ∧ (f size).Plays es outcome := by
  unfold givenSize at h
  cases given : nonempty? o.size with
  | none =>
      rw [given] at h
      exact .inr ⟨none, .notGiven given, h⟩
  | some size =>
      rw [given] at h
      cases read : sizeOfText size with
      | error failure =>
          simp only [read] at h
          exact .inl ⟨size, failure, rfl, read, h⟩
      | ok n =>
          simp only [read] at h
          exact .inr ⟨some n, .given given read, h⟩

/-- What is left of a creation when it is known whether there is a stack in the way. -/
def furnish (parameters : Stack.Parameters) (replacing : Bool) : Program Text := do
  ensure (parameters.has .keyPair) .keyPairNotGiven
  ensureNetwork parameters
  let parameters ← operator.withImage parameters
  Program.ofExcept parameters.validate
  let _ ← (Service.create operator.access operator.config.cluster).remotely "CreateCluster"
    operator.config.cluster
  if replacing then operator.removeStack
  operator.createStack parameters

/-- An action on the stack of the cluster, after the guards that ask for both. -/
def onStanding (act : Stack.Handle → Program α) : Program α := do
  operator.ensureActive operator.config.cluster
  let stack ← operator.existingStack operator.config.cluster
  act stack

def dismantle (stack : Stack.Handle) : Program Unit := do
  stack.delete
  Program.note .info "Waiting for your cluster resources to be deleted..."
  stack.awaitDeletion operator.pages
  let _ ← (Service.delete operator.access operator.config.cluster).remotely "DeleteCluster"
    operator.config.cluster
  pure ()

/-- What is left of a deletion when the stack is gone. -/
def removeCluster : Program Unit := do
  let _ ← (Service.delete operator.access operator.config.cluster).remotely "DeleteCluster"
    operator.config.cluster
  pure ()

def adjust (size : Nat) (stack : Stack.Handle) : Program Unit := do
  let _ ← stack.update (resized size)
  Program.note .info "Waiting for your cluster resources to be updated..."
  stack.awaitUpdate operator.pages

def listActive : Program (List ContainerRow) := do
  operator.ensureActive operator.config.cluster
  let runningTasks ← operator.tasks operator.config.cluster running
  let stoppedTasks ← operator.tasks operator.config.cluster stopped
  let tasks := runningTasks ++ stoppedTasks
  let addresses ← operator.addresses operator.config.cluster tasks
  pure (tasks.flatMap (rowsOf addresses))

/-- The run is over before its first call, with the failure of a guard. -/
def StopsAtGuard (command : Command) (es : List Exchange) (outcome : Outcome α) : Prop :=
  es = [] ∧ ∃ failure, operator.Barred command failure ∧ outcome = .failed failure

/-- What comes after the guards of a creation that ask nothing. -/
theorem plays_guarded {o : CreationOptions} {f : String → Option Nat → Program α} {outcome : Outcome α}
    (h : (do
      ensure o.acknowledged .iamNotAcknowledged
      let cluster ← operator.chosenName
      let size ← givenSize o
      f cluster size : Program α).Plays es outcome) :
    operator.StopsAtGuard (.creation o) es outcome ∨
      o.acknowledged = true ∧ operator.config.cluster ≠ "" ∧ ∃ size, Sized o size ∧
        (f operator.config.cluster size).Plays es outcome := by
  rcases plays_ensure_bind h with ⟨unknown, rfl, rfl⟩ | ⟨acknowledged, h₁⟩
  · exact .inl ⟨rfl, _, .creationNotAcknowledged unknown, rfl⟩
  rcases operator.plays_chosenName_bind h₁ with ⟨unnamed, rfl, rfl⟩ | ⟨named, h₂⟩
  · exact .inl ⟨rfl, _, .clusterNotNamed _ unnamed, rfl⟩
  rcases plays_givenSize_bind h₂ with ⟨text, failure, given, unread, rfl, rfl⟩ | ⟨size, sized, h₃⟩
  · exact .inl ⟨rfl, _, .creationSize given unread, rfl⟩
  · exact .inr ⟨acknowledged, named, size, sized, h₃⟩

theorem plays_create_guarded {o : CreationOptions} {outcome : Outcome Text}
    (h : (operator.create o).Plays es outcome) :
    operator.StopsAtGuard (.creation o) es outcome ∨
      o.acknowledged = true ∧ operator.config.cluster ≠ "" ∧ ∃ size, Sized o size ∧
        (operator.ensureRoom operator.config.cluster o.force >>=
          operator.furnish (o.parameters operator.config.cluster size)).Plays es outcome :=
  operator.plays_guarded h

/-- What is left of a creation when the parameters are complete and valid. -/
def establish (parameters : Stack.Parameters) (replacing : Bool) : Program Text := do
  let _ ← (Service.create operator.access operator.config.cluster).remotely "CreateCluster"
    operator.config.cluster
  if replacing then operator.removeStack
  operator.createStack parameters

/-- Nothing is changed before the parameters are complete and valid. -/
theorem plays_furnish_establish {parameters : Stack.Parameters} {replacing : Bool}
    {outcome : Outcome Text} (h : (operator.furnish parameters replacing).Plays es outcome) :
    (changes es = [] ∧ ∀ id, outcome ≠ .done id) ∨
    ∃ complete looked rest, es = looked ++ rest ∧ changes looked = [] ∧
      parameters.has .keyPair = true ∧
      (operator.withImage parameters).Plays looked (.done complete) ∧ complete.validate = .ok () ∧
      (operator.establish complete replacing).Plays rest outcome := by
  rcases plays_ensure_bind h with ⟨-, rfl, rfl⟩ | ⟨keyed, h₁⟩
  · exact .inl ⟨rfl, nofun⟩
  rcases (silent_ensureNetwork _).bind h₁ with ⟨rfl, failure, rfl⟩ | ⟨-, h₂⟩
  · exact .inl ⟨rfl, nofun⟩
  have reads := operator.reads_withImage parameters
  rcases Program.plays_bind.mp h₂ with
    ⟨complete, looked, rest, rfl, found, h₃⟩ | ⟨failure, found, rfl⟩ | ⟨found, rfl⟩
  · cases valid : complete.validate with
    | error failure =>
        rw [valid] at h₃
        obtain ⟨rfl, rfl⟩ := h₃
        rw [List.append_nil]
        exact .inl ⟨reads.changes_eq_nil found, nofun⟩
    | ok u =>
        rw [valid] at h₃
        exact .inr ⟨complete, looked, rest, rfl, reads.changes_eq_nil found, keyed, found, valid, h₃⟩
  · exact .inl ⟨reads.changes_eq_nil found, nofun⟩
  · exact .inl ⟨reads.changes_eq_nil found, nofun⟩

/-- With a key pair, a creation whose parameters describe no network is refused at once. -/
theorem furnish_unfit {parameters : Stack.Parameters} {replacing : Bool} {refusal : Refusal}
    (keyed : parameters.has .keyPair = true) (fault : networkFault? parameters = some refusal) :
    operator.furnish parameters replacing = refuse refusal := by
  have network : ensureNetwork parameters = refuse refusal := by
    unfold ensureNetwork
    rw [fault]
  unfold furnish
  rw [keyed, network]
  rfl

theorem plays_furnish_fit {parameters : Stack.Parameters} {replacing : Bool} {outcome : Outcome Text}
    (h : (operator.furnish parameters replacing).Plays es outcome) (called : es ≠ []) :
    networkFault? parameters = none := by
  rcases plays_ensure_bind h with ⟨-, rfl, -⟩ | ⟨keyed, -⟩
  · cases called rfl
  cases fault : networkFault? parameters with
  | none => rfl
  | some refusal =>
      rw [operator.furnish_unfit keyed fault] at h
      exact absurd h.1 called

/-- The cluster is created first, before any other change, and what follows is left as a play. -/
theorem plays_furnish {parameters : Stack.Parameters} {replacing : Bool} {outcome : Outcome Text}
    (h : (operator.furnish parameters replacing).Plays es outcome) :
    (changes es = [] ∧ ∀ id, outcome ≠ .done id) ∨
    ∃ complete looked founded others,
      es = looked ++ ⟨Service.creationCall operator.access operator.config.cluster, founded⟩ ::
        others ∧
      changes looked = [] ∧ parameters.has .keyPair = true ∧
      (operator.withImage parameters).Plays looked (.done complete) ∧ complete.validate = .ok () ∧
      ((others = [] ∧ ∀ id, outcome ≠ .done id) ∨
        (if replacing = true then do
            operator.removeStack
            operator.createStack complete
          else operator.createStack complete).Plays others outcome) := by
  rcases operator.plays_furnish_establish h with
    unchanged | ⟨complete, looked, rest, rfl, none, keyed, found, valid, h₁⟩
  · exact .inl unchanged
  obtain ⟨founded, others, rfl, created⟩ := ((Service.checks_create _ _).remotely _ _).bind h₁
  refine .inr ⟨complete, looked, founded, others, rfl, none, keyed, found, valid, ?_⟩
  rcases created with ⟨rfl, failure, rfl⟩ | ⟨name, -, h₂⟩
  · exact .inl ⟨rfl, nofun⟩
  · exact .inr h₂

/-- An action on the stack of the cluster follows two questions, of which the second one is only asked
after a good reply to the first one. -/
theorem plays_onStanding_asked {act : Stack.Handle → Program α} {outcome : Outcome α}
    (h : (operator.onStanding act).Plays es outcome) :
    ∃ active rest,
      es = ⟨Service.activeCall operator.access operator.config.cluster, active⟩ :: rest ∧
      ((rest = [] ∧ ∃ failure, outcome = .failed failure) ∨
        Service.ReportsActive active ∧ ∃ described others,
          rest = ⟨operator.stack.statusCall, described⟩ :: others ∧
          ((others = [] ∧ ∃ failure, outcome = .failed failure) ∨
            operator.stack.presenceIn described = .existing ∧
              (act operator.stack).Plays others outcome)) := by
  obtain ⟨active, rest, rfl, ended | ⟨-, reports, h₁⟩⟩ := (operator.checks_ensureActive _).bind h
  · exact ⟨active, rest, rfl, .inl ended⟩
  obtain ⟨described, others, rfl, ended | ⟨_, ⟨existing, rfl⟩, h₂⟩⟩ :=
    (operator.checks_existingStack _).bind h₁
  · exact ⟨active, _, rfl, .inr ⟨reports, described, others, rfl, .inl ended⟩⟩
  · exact ⟨active, _, rfl, .inr ⟨reports, described, others, rfl, .inr ⟨existing, h₂⟩⟩⟩

theorem changes_standing (active described : Reply) (rest : List Exchange) :
    changes (⟨Service.activeCall operator.access operator.config.cluster, active⟩ ::
      ⟨operator.stack.statusCall, described⟩ :: rest) = changes rest := by
  rw [changes_cons_of_reading (Service.activeCall_reads _ _),
    changes_cons_of_reading operator.stack.statusCall_reads]

/-- An action on the stack of the cluster follows two replies: the cluster is active, and there is a
stack. -/
theorem plays_onStanding {act : Stack.Handle → Program α} {outcome : Outcome α}
    (h : (operator.onStanding act).Plays es outcome) :
    (changes es = [] ∧ ∃ failure, outcome = .failed failure) ∨
    ∃ active described rest,
      es = ⟨Service.activeCall operator.access operator.config.cluster, active⟩ ::
        ⟨operator.stack.statusCall, described⟩ :: rest ∧
      Service.ReportsActive active ∧ operator.stack.presenceIn described = .existing ∧
      (act operator.stack).Plays rest outcome := by
  obtain ⟨active, rest, rfl, ⟨rfl, failed⟩ | ⟨reports, described, others, rfl,
    ⟨rfl, failed⟩ | ⟨existing, acts⟩⟩⟩ := operator.plays_onStanding_asked h
  · refine .inl ⟨?_, failed⟩
    rw [changes_cons_of_reading (Service.activeCall_reads _ _)]
    rfl
  · exact .inl ⟨operator.changes_standing active described [], failed⟩
  · exact .inr ⟨active, described, others, rfl, reports, existing, acts⟩

theorem plays_delete_guarded {o : DeletionOptions} {outcome : Outcome Unit}
    (h : (operator.delete o).Plays es outcome) :
    operator.StopsAtGuard (.deletion o) es outcome ∨
      o.force = true ∧ operator.config.cluster ≠ "" ∧
        (operator.onStanding operator.dismantle).Plays es outcome := by
  rcases plays_ensure_bind h with ⟨unforced, rfl, rfl⟩ | ⟨forced, h₁⟩
  · exact .inl ⟨rfl, _, .deletionNotConfirmed unforced, rfl⟩
  rcases operator.plays_chosenName_bind h₁ with ⟨unnamed, rfl, rfl⟩ | ⟨named, h₂⟩
  · exact .inl ⟨rfl, _, .clusterNotNamed _ unnamed, rfl⟩
  · exact .inr ⟨forced, named, h₂⟩

theorem plays_resize_guarded {o : ResizeOptions} {outcome : Outcome Unit}
    (h : (operator.resize o).Plays es outcome) :
    operator.StopsAtGuard (.resizing o) es outcome ∨
      o.acknowledged = true ∧ operator.config.cluster ≠ "" ∧ ∃ text size,
        nonempty? o.size = some text ∧ sizeOfText text = .ok size ∧
        (operator.onStanding (operator.adjust size)).Plays es outcome := by
  rcases plays_ensure_bind h with ⟨unknown, rfl, rfl⟩ | ⟨acknowledged, h₁⟩
  · exact .inl ⟨rfl, _, .resizingNotAcknowledged unknown, rfl⟩
  cases given : nonempty? o.size with
  | none =>
      rw [given] at h₁
      obtain ⟨rfl, rfl⟩ := h₁
      exact .inl ⟨rfl, _, .sizeNotGiven given, rfl⟩
  | some text =>
      rw [given] at h₁
      cases read : sizeOfText text with
      | error failure =>
          simp only [read] at h₁
          obtain ⟨rfl, rfl⟩ := h₁
          exact .inl ⟨rfl, _, .resizingSize given read, rfl⟩
      | ok size =>
          simp only [read] at h₁
          rcases operator.plays_chosenName_bind h₁ with ⟨unnamed, rfl, rfl⟩ | ⟨named, h₂⟩
          · exact .inl ⟨rfl, _, .clusterNotNamed _ unnamed, rfl⟩
          · exact .inr ⟨acknowledged, named, text, size, rfl, read, h₂⟩

theorem plays_list_guarded {outcome : Outcome (List ContainerRow)}
    (h : operator.list.Plays es outcome) :
    operator.StopsAtGuard .listing es outcome ∨
      operator.config.cluster ≠ "" ∧ operator.listActive.Plays es outcome := by
  rcases operator.plays_chosenName_bind h with ⟨unnamed, rfl, rfl⟩ | ⟨named, h₁⟩
  · exact .inl ⟨rfl, _, .clusterNotNamed _ unnamed, rfl⟩
  · exact .inr ⟨named, h₁⟩

theorem ne_nil_of_checks {β : Type} {p : Program β} {f : β → Program α} {call : Invocation}
    {Passes : Reply → β → Prop} (checks : p.Checks call Passes) {outcome : Outcome α}
    (h : (p >>= f).Plays es outcome) : es ≠ [] := by
  obtain ⟨reply, rest, rfl, -⟩ := checks.bind h
  exact List.cons_ne_nil _ _

/-- A command makes no call exactly if a guard that asks nothing bars it. -/
theorem plays_perform_guarded {command : Command} {outcome : Outcome command.Answer}
    (h : (operator.perform command).Plays es outcome) :
    operator.StopsAtGuard command es outcome ∨
      es ≠ [] ∧ ∀ failure, ¬ operator.Barred command failure := by
  cases command with
  | creation o =>
      rcases operator.plays_create_guarded h with stops | ⟨acknowledged, named, size, sized, h₁⟩
      · exact .inl stops
      · refine .inr ⟨ne_nil_of_checks (operator.checks_ensureRoom _ _) h₁, fun failure barred => ?_⟩
        cases barred with
        | creationNotAcknowledged unknown => exact Bool.eq_false_iff.mp unknown acknowledged
        | clusterNotNamed _ unnamed => exact named unnamed
        | creationSize given unread =>
            cases sized with
            | notGiven absent =>
                rw [absent] at given
                cases given
            | given present read =>
                rw [present] at given
                cases given
                rw [read] at unread
                cases unread
  | deletion o =>
      rcases operator.plays_delete_guarded h with stops | ⟨forced, named, h₁⟩
      · exact .inl stops
      · refine .inr ⟨ne_nil_of_checks (operator.checks_ensureActive _) h₁, fun failure barred => ?_⟩
        cases barred with
        | deletionNotConfirmed unforced => exact Bool.eq_false_iff.mp unforced forced
        | clusterNotNamed _ unnamed => exact named unnamed
  | resizing o =>
      rcases operator.plays_resize_guarded h with
        stops | ⟨acknowledged, named, text, size, given, read, h₁⟩
      · exact .inl stops
      · refine .inr ⟨ne_nil_of_checks (operator.checks_ensureActive _) h₁, fun failure barred => ?_⟩
        cases barred with
        | resizingNotAcknowledged unknown => exact Bool.eq_false_iff.mp unknown acknowledged
        | clusterNotNamed _ unnamed => exact named unnamed
        | sizeNotGiven absent =>
            rw [absent] at given
            cases given
        | resizingSize present unread =>
            rw [present] at given
            cases given
            rw [read] at unread
            cases unread
  | listing =>
      rcases operator.plays_list_guarded h with stops | ⟨named, h₁⟩
      · exact .inl stops
      · refine .inr ⟨ne_nil_of_checks (operator.checks_ensureActive _) h₁, fun failure barred => ?_⟩
        cases barred with
        | clusterNotNamed _ unnamed => exact named unnamed

end Operator

end ClusterStack.Cluster
