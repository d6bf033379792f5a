import ClusterStack.Stack.Handle
/-!
# The history of a stack

All events of a stack are collected by following the token of each page to the next one. A service
that never stops to hand out tokens would be followed for ever; the number of pages is therefore
bounded by an argument, and a history that is longer is left unfinished.

The first failure of a stack is the oldest event with a status of failure.
-/
namespace ClusterStack.Stack.Handle

variable (stack : Handle)

/-- The events of the page that the token stands for and of all pages after it, the newest first. -/
def eventsFrom (token : Option Text) : (pages : Nat) → Program (List Event)
  | 0 => .unfinished
  | pages + 1 => do
    let page ← stack.events token
    match page.nextToken with
    | none => pure page.events
    | some next =>
      if next.isEmpty then pure page.events
      else do
        let older ← eventsFrom (some next) pages
        pure (page.events ++ older)

def searchNote (event : Event) : String :=
  s!"Parsing event: status={Program.shown event.status} reason={Program.shown event.reason} " ++
    s!"id={Program.shown event.id} resourceType={Program.shown event.resourceType}"

def cameTo (statuses : List String) (event : Event) : Bool :=
  match event.status with
  | some status => status.isOneOf statuses
  | none => false

/-- The first of the events with one of the statuses. Each event that is looked at is noted. -/
def firstWith (statuses : List String) : List Event → Program Event
  | [] => .fail (stack.failure .noFailedEvent)
  | event :: rest => do
    Program.note .debug (searchNote event)
    if cameTo statuses event then pure event else firstWith statuses rest

def firstFailure (pages : Nat) (statuses : List String) : Program Event := do
  let events ← stack.eventsFrom none pages
  stack.firstWith statuses events.reverse

/-- Notes the oldest event with one of the statuses. That it cannot be found is noted too, and is no
failure. -/
def noteFirstFailure (pages : Nat) (statuses : List String) : Program Unit :=
  let searched : Program Unit := do
    let event ← stack.firstFailure pages statuses
    Program.note .error
      (s!"Failure event: resourceType={Program.shown event.resourceType} " ++
        s!"reason={Program.shown event.reason}")
  searched.recover fun failure =>
    match failure with
    | .remote _ _ _ | .stack _ _ =>
      Program.note .debug s!"Could not locate the first failure event: {failure.message}"
    | _ => .fail failure

end ClusterStack.Stack.Handle
