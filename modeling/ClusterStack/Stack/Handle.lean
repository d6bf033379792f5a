import ClusterStack.Stack.Service
/-!
# A stack by its name

What can be done with one stack. A call that fails is reported as the failure of the operation on
this stack, so that the reader of the report knows what was attempted on what.
-/
namespace ClusterStack.Stack

/-- A stack of a service, whether it exists or not. -/
structure Handle where
  service : Service
  name : String

namespace Handle

variable (stack : Handle)

def failure (fault : StackFault) : Failure := .stack stack.name fault

def create (template : String) (parameters : Parameters) : Program Text :=
  (stack.service.create stack.name template parameters).remotely "CreateStack" stack.name

def update (parameters : Parameters) : Program Text :=
  (stack.service.update stack.name parameters).remotely "UpdateStack" stack.name

def delete : Program Unit :=
  (stack.service.delete stack.name).remotely "DeleteStack" stack.name

def status : Program Text :=
  (stack.service.status stack.name).remotely "DescribeStacks" stack.name

def requireDescription : Program Unit := do
  let _ ← stack.status

/-- The stack can be described. Only the answer that it is missing says that it does not exist; any
other failure to describe it leaves the question open, and fails. -/
def exists? : Program Bool :=
  (do stack.requireDescription; pure true : Program Bool).recover fun failure =>
    match failure with
    | .remote _ _ _ => if failure.tellsAbsenceOfStack then pure false else .fail failure
    | _ => .fail failure

def events (token : Option Text) : Program EventPage :=
  (stack.service.events stack.name token).remotely "DescribeStackEvents" stack.name

def newestEvent : Program Event := do
  let page ← stack.events none
  match page.newest? with
  | some event => pure event
  | none => .fail (stack.failure .noEvents)

end Handle

end ClusterStack.Stack
