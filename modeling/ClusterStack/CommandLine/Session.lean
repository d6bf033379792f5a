import ClusterStack.Cluster.Deletion
import ClusterStack.Cluster.Listing
import ClusterStack.Cluster.Resizing
import ClusterStack.Cluster.Creation
import ClusterStack.CommandLine.Confirmation
import ClusterStack.CommandLine.Help
import ClusterStack.Template.Document
/-!
# A session of the command line

A session takes arguments, the variables of the environment and what is typed, and has a command
carried out. It ends with an exit code, unless the command ends with a failure that nothing prepared
for. What the user sees are the output of the command and, apart from it, the notes that are
important enough and the failure.
-/
namespace ClusterStack.CommandLine

/-- What a session starts from. -/
structure Terminal where
  arguments : List String
  environment : List (String × String)
  input : String
  pages : Nat

/-- The means to act on a cluster. The image of its instances is the recommended one for their
type. -/
def operatorFor (config : Cluster.Config) (instanceType : Option String) (pages : Nat) :
    Cluster.Operator where
  config := config
  images := .recommended instanceType config.profile
  template := pure Template.packaged
  pages := pages

/-- Carries out an order. What comes of it is the output. -/
def Order.program (config : Cluster.Config) (pages : Nat) : Order → Program String
  | .up options => do
    let stack ← (operatorFor config options.instanceType pages).create options
    Program.note .info s!"Cluster creation succeeded. Stack: {stack}"
    pure ""
  | .down options => do
    (operatorFor config none pages).delete options
    Program.note .info "Cluster deletion succeeded"
    pure ""
  | .scale options => do
    (operatorFor config none pages).resize options
    Program.note .info "Cluster scaling succeeded"
    pure ""
  | .list => do
    let rows ← (operatorFor config none pages).list
    pure (Cluster.ContainerRow.table rows ++ "\n")

def Order.question? (config : Cluster.Config) : Order → Option String
  | .down options => if options.force then none else some (deletionQuestion config.cluster)
  | _ => none

def Order.confirmed (config : Cluster.Config) (input : String) : Order → Program Order
  | .down options => do
    if options.force then pure (.down options)
    else do
      let agreed ← deletionAgreed config.cluster input
      pure (.down ⟨agreed⟩)
  | order => pure order

def Request.question? (request : Request) (config : Cluster.Config) : Option String :=
  match request.order with
  | .ok order => order.question? config
  | .error _ => none

def Request.config (request : Request) (environment : List (String × String)) :
    Except Failure Cluster.Config :=
  (Cluster.Settings.ofEnvironment environment).config request.choice

def Request.program (request : Request) (config : Cluster.Config) (input : String) (pages : Nat) :
    Program String := do
  let order ← Program.ofExcept request.order
  let order ← order.confirmed config input
  order.program config pages

inductive Conclusion
  | exited (code : Nat)
  | escaped (failure : Failure)
  | unfinished
  deriving DecidableEq, Repr

structure Session (σ : Type) where
  conclusion : Conclusion
  output : String
  errors : String
  trace : List Action
  state : σ

/-- The failure is reported to the user: it is one of the command itself, or the data that the user
gave is unfit. -/
def isReported : Failure → Bool
  | .value (.invalid _) => true
  | failure => failure.isReported

def concludeFailure (failure : Failure) : Conclusion :=
  if isReported failure then .exited 1 else .escaped failure

def failureText (command : Command) (failure : Failure) : String :=
  if isReported failure then s!"Error executing '{command.name}': {failure.message}\n" else ""

def levelName : Level → String
  | .debug => "DEBUG"
  | .info => "INFO"
  | .error => "ERROR"

/-- The line of a note that is shown. Notes for those who look closely are shown only to them. -/
def noteText (verbose : Bool) : Action → String
  | .logged level message =>
    if level == .debug && !verbose then "" else s!"{levelName level} {message}\n"
  | _ => ""

def notesText (verbose : Bool) (trace : List Action) : String :=
  String.join (trace.map (noteText verbose))

def carryOut {σ : Type} (backend : Backend σ) (terminal : Terminal) (request : Request)
    (config : Cluster.Config) (s : σ) : Session σ :=
  let question := (request.question? config).getD ""
  let run := (request.program config terminal.input terminal.pages).run backend s
  let notes := notesText request.verbose run.trace
  match run.outcome with
  | .done output => ⟨.exited 0, question ++ output, notes, run.trace, run.state⟩
  | .failed failure =>
    ⟨concludeFailure failure, question, notes ++ failureText request.command failure,
      run.trace, run.state⟩
  | .unfinished => ⟨.unfinished, question, notes, run.trace, run.state⟩

def decline {σ : Type} (reason : NoRequest) (s : σ) : Session σ :=
  match reason.reason with
  | .help => ⟨.exited 0, helpText reason.command, "", [], s⟩
  | .misuse misuse => ⟨.exited 2, "", misuseText reason.command misuse, [], s⟩

/-- Runs a session against a behaviour of the outside. -/
def session {σ : Type} (backend : Backend σ) (terminal : Terminal) (s : σ) : Session σ :=
  match readRequest terminal.arguments with
  | .error reason => decline reason s
  | .ok request =>
    match request.config terminal.environment with
    | .error failure =>
      ⟨concludeFailure failure, "", failureText request.command failure, [], s⟩
    | .ok config => carryOut backend terminal request config s

end ClusterStack.CommandLine
