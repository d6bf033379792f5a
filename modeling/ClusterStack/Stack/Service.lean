import ClusterStack.Aws.Call
import ClusterStack.Stack.Event
import ClusterStack.Stack.Parameter
/-!
# The stack service

The calls that act on a stack and ask for its state, each a single run of the `aws` program. A stack
may create roles on behalf of its owner, which every creation and update acknowledges.
-/
namespace ClusterStack.Stack

def rolesAcknowledged : String := "CAPABILITY_IAM"

structure Service where
  access : Aws.Access
  pageSize : Int

namespace Service

def usualPageSize : Int := 100

def usual (access : Aws.Access) : Service := ⟨access, usualPageSize⟩

def invocation (service : Service) (operation name : String) (arguments : List Text) :
    Invocation :=
  service.access.invocation "cloudformation" operation
    (.str "--stack-name" :: .str name :: arguments.map Json.str)

def submission (parameters : Parameters) : List Text :=
  ["--capabilities", rolesAcknowledged, "--parameters", parameters.requestText]

def submit (service : Service) (operation action name : String) (arguments : List Text)
    (parameters : Parameters) : Program Text := do
  let call := service.invocation operation name (arguments ++ submission parameters)
  let id ← Aws.request call fun answer =>
    Aws.responseMember (.obj answer) "StackId" (readAs "str" Validation.text) operation
  Program.note .debug s!"Cloudformation {action} stack call succeeded, stackId={id}"
  pure id

def create (service : Service) (name template : String) (parameters : Parameters) :
    Program Text :=
  service.submit "create-stack" "create" name ["--template-body", template] parameters

/-- Asks for the parameters of a stack to be changed. Its template stays. -/
def update (service : Service) (name : String) (parameters : Parameters) : Program Text :=
  service.submit "update-stack" "update" name ["--use-previous-template"] parameters

def delete (service : Service) (name : String) : Program Unit :=
  Aws.request (service.invocation "delete-stack" name []) fun _ => .ok ()

/-- The status in a description of stacks, of which the first one counts. -/
def readStatus (name : String) (answer : List (Text × Json)) : Except Failure Text := do
  let operation := "describe-stacks"
  let described ← Aws.responseMember (.obj answer) "Stacks"
    (readAs "list[any]" Validation.anyList) operation
  match described with
  | [] =>
    .error (.service ⟨"ValidationError", s!"Could not describe stack '{name}'", operation, none⟩)
  | stack :: _ =>
    Aws.responseMember stack "StackStatus" (readAs "str" Validation.text) operation

def status (service : Service) (name : String) : Program Text :=
  Aws.request (service.invocation "describe-stacks" name []) (readStatus name)

/-- The page in an answer. One that cannot be used is an error of the service. -/
def readPage (answer : List (Text × Json)) : Except Failure EventPage :=
  match EventPage.ofJson (.obj answer) with
  | .error (.value fault) =>
    .error (.service (.invalidResponse "describe-stack-events" fault.message))
  | outcome => outcome

/-- A page of the history of a stack: the newest one, or the one that the token stands for. -/
def events (service : Service) (name : String) (token : Option Text) : Program EventPage :=
  let fromToken : List Text := match token with
    | some token => if token.isEmpty then [] else ["--starting-token", token]
    | none => []
  let call := service.invocation "describe-stack-events" name
    ("--max-items" :: toString service.pageSize :: fromToken)
  Aws.request call readPage

end Service

end ClusterStack.Stack
