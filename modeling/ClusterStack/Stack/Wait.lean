import ClusterStack.Stack.History
/-!
# Waiting for a stack

An operation on a stack is only requested; it is complete once the stack has come to a certain
status. A wait looks at the stack again and again, a limited number of times. Each time the newest
event is looked at first, because it tells of a failed resource before the status of the stack does.
A call that fails ends the wait.
-/
namespace ClusterStack.Stack

structure Wait where
  success : String
  failedResource : String
  activity : String
  failures : List String
  attempts : Nat
  deriving DecidableEq, Repr

namespace Wait

def creation : Wait where
  success := "CREATE_COMPLETE"
  failedResource := "CREATE_FAILED"
  activity := "creating"
  failures := ["CREATE_FAILED", "ROLLBACK_IN_PROGRESS", "ROLLBACK_COMPLETE",
    "UPDATE_ROLLBACK_FAILED"]
  attempts := 50

def update : Wait where
  success := "UPDATE_COMPLETE"
  failedResource := "UPDATE_FAILED"
  activity := "updating"
  failures := ["UPDATE_ROLLBACK_COMPLETE", "UPDATE_ROLLBACK_FAILED"]
  attempts := 5

def deletion : Wait where
  success := "DELETE_COMPLETE"
  failedResource := "DELETE_FAILED"
  activity := "deleting"
  failures := ["DELETE_FAILED"]
  attempts := 25

/-- The time between two looks at a stack, in milliseconds. -/
def delay : Nat := 30000

def isFailure (wait : Wait) (event : Event) : Bool :=
  event.status == some (wait.failedResource : Text)

def examine (wait : Wait) (event : Event) : Program Bool := do
  let status := Program.shown event.status
  let resource := Program.shown event.physicalId
  Program.note .debug s!"Parsing event: status={status} resource={resource}"
  if wait.isFailure event then do
    Program.note .error
      (s!"Error {wait.activity} cloudformation stack for cluster: status={status} " ++
        s!"resource={resource} reason={Program.shown event.reason}")
    pure true
  else pure false

/-- How important the note of a status is: every second one is for those who look closely. -/
def level (attempt : Nat) : Level := if attempt % 2 == 0 then .info else .debug

/-- The looks at the stack that are left, of which this is the one with the given number. In a
search for the first failure at most `pages` pages of events are read. -/
def looks (wait : Wait) (stack : Handle) (pages attempt : Nat) : (left : Nat) → Program Unit
  | 0 => .fail (stack.failure (.timedOut wait.success wait.attempts))
  | left + 1 => do
    let event ← stack.newestEvent
    if ← wait.examine event then
      .fail (stack.failure (.resourceFailed wait.success (Text.shownIfGiven event.reason)))
    else do
      let status ← stack.status
      if status == wait.success then pure ()
      else if status.isOneOf wait.failures then do
        Program.note .debug "Stack operation failed. Getting first failed event"
        stack.noteFirstFailure pages wait.failures
        .fail (stack.failure (.failedStatus wait.success status.toString))
      else do
        Program.note (level attempt) s!"Cloudformation stack status: {status}"
        Program.rest delay
        looks wait stack pages (attempt + 1) left

def run (wait : Wait) (stack : Handle) (pages : Nat) : Program Unit :=
  wait.looks stack pages 0 wait.attempts

end Wait

namespace Handle

variable (stack : Handle) (pages : Nat)

def awaitCreation : Program Unit := Wait.creation.run stack pages

def awaitUpdate : Program Unit := Wait.update.run stack pages

/-- Waits until the stack is deleted. A stack that is found to be missing is deleted. -/
def awaitDeletion : Program Unit :=
  (Wait.deletion.run stack pages).recover fun failure =>
    match failure with
    | .remote _ _ _ =>
      if failure.tellsAbsenceOfStack then
        Program.note .debug s!"Stack {stack.name} no longer exists"
      else .fail failure
    | _ => .fail failure

end Handle

end ClusterStack.Stack
