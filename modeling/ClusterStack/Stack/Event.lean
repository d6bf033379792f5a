import ClusterStack.Failure
import ClusterStack.Timestamp.Basic
import ClusterStack.Validation.Scalar
import ClusterStack.Validation.Time
/-!
# Stack events

A stack keeps a history of what happened to its resources. It is read in pages, the newest event
first. A page whose times contradict that order is rejected; events without a time may stand
anywhere. The order is checked between neighbours among the events with a time, from the front, and
the first pair that contradicts it or cannot be compared decides.
-/
namespace ClusterStack.Stack

structure Event where
  id : Option Text
  resourceType : Option Text
  status : Option Text
  reason : Option Text
  physicalId : Option Text
  logicalId : Option Text
  timestamp : Option Timestamp
  deriving DecidableEq, Repr

def Event.title : String := "StackEvent"

def Event.check : Validation.Check Event :=
  Validation.object fun members =>
    Event.mk <$> Validation.optional members ["EventId", "event_id"] Validation.text
      <*> Validation.optional members ["ResourceType", "resource_type"] Validation.text
      <*> Validation.optional members ["ResourceStatus", "resource_status"] Validation.text
      <*> Validation.optional members ["ResourceStatusReason", "resource_status_reason"]
        Validation.text
      <*> Validation.optional members ["PhysicalResourceId", "physical_resource_id"]
        Validation.text
      <*> Validation.optional members ["LogicalResourceId", "logical_resource_id"]
        Validation.text
      <*> Validation.optional members ["Timestamp", "timestamp"] Validation.time

structure EventPage where
  events : List Event
  /-- What the next page is asked for with, if there may be one. -/
  nextToken : Option Text
  deriving DecidableEq, Repr

namespace EventPage

def title : String := "StackEventsPage"

/-- The shape of a page, its order apart. -/
def check : Validation.Check EventPage :=
  Validation.object fun members =>
    EventPage.mk
      <$> Validation.defaulted members ["StackEvents", "events"] [] (Validation.list Event.check)
      <*> Validation.optional members ["NextToken", "next_token"] Validation.text

def orderRule : String := "Stack events must be ordered newest first."

/-- No time lies before the one after it. -/
def checkNewestFirst : List Timestamp → Except Failure Unit
  | newer :: older :: rest =>
    match newer.before? older with
    | none => .error (.data .timesNotOrdered)
    | some true => .error (.value (.invalid ⟨title, [⟨[], .rule orderRule⟩]⟩))
    | some false => checkNewestFirst (older :: rest)
  | _ => .ok ()

def timestamps (page : EventPage) : List Timestamp := page.events.filterMap Event.timestamp

def ofJson (data : Json) : Except Failure EventPage := do
  let page ← readAs title check data
  checkNewestFirst page.timestamps
  pure page

def newest? (page : EventPage) : Option Event := page.events.head?

end EventPage

end ClusterStack.Stack
