import ClusterStack.Proofs.Changes
import ClusterStack.Proofs.Faults
import ClusterStack.Proofs.Runs
import ClusterStack.Stack.Handle
/-!
# What a stack is asked

The calls about a stack by themselves, and what their replies say. Each operation on a stack is
described once here: which call it makes and how it ends on each reply.
-/
namespace ClusterStack.Stack.Handle

variable (stack : Handle)

def tokenArguments : Option Text → List Text
  | some token => if token.isEmpty then [] else ["--starting-token", token]
  | none => []

def pageCall (token : Option Text) : Invocation :=
  stack.service.invocation "describe-stack-events" stack.name
    ("--max-items" :: toString stack.service.pageSize :: tokenArguments token)

def eventsCall : Invocation := stack.pageCall none

def statusCall : Invocation := stack.service.invocation "describe-stacks" stack.name []

def deletionCall : Invocation := stack.service.invocation "delete-stack" stack.name []

def creationCall (template : String) (parameters : Parameters) : Invocation :=
  stack.service.invocation "create-stack" stack.name
    ("--template-body" :: template :: Service.submission parameters)

def pageIn (reply : Reply) : Except Failure EventPage :=
  (Aws.readReply "describe-stack-events" reply).bind Service.readPage

def statusIn (reply : Reply) : Except Failure Text :=
  (Aws.readReply "describe-stacks" reply).bind (Service.readStatus stack.name)

theorem pageIn_error {reply : Reply} {cause : Failure} (h : pageIn reply = .error cause) :
    cause.isOfCall = true ∨ cause.Unprepared := by
  rcases error_of_bind h with unread | ⟨answer, -, unread⟩
  · exact Aws.readReply_error unread
  · rcases Service.readPage_error unread with call | rfl
    · exact .inl call
    · exact .inr .timesNotOrdered

theorem statusIn_error {reply : Reply} {cause : Failure} (h : stack.statusIn reply = .error cause) :
    cause.isOfCall = true ∨ cause.Unprepared := by
  rcases error_of_bind h with unread | ⟨answer, -, unread⟩
  · exact Aws.readReply_error unread
  · exact .inl (Service.readStatus_error unread)

def newestIn (reply : Reply) : Except Failure Event :=
  match pageIn reply with
  | .error cause => .error (Failure.ofCall "DescribeStackEvents" stack.name cause)
  | .ok page =>
    match page.newest? with
    | some event => .ok event
    | none => .error (stack.failure .noEvents)

/-- The deletion is under way. -/
def Accepted (reply : Reply) : Prop := ∃ answer, Aws.readReply "delete-stack" reply = .ok answer

def AnswersId (reply : Reply) (id : Text) : Prop :=
  ∃ answer, Aws.readReply "create-stack" reply = .ok answer ∧
    Json.member? answer "StackId" = some (.str id)

/-- What is told of whether a stack exists. -/
inductive Presence
  | existing
  | missing
  | unknown
  deriving DecidableEq

def presenceIn (reply : Reply) : Presence :=
  match stack.statusIn reply with
  | .ok _ => .existing
  | .error cause => if cause.isAbsenceOfStack then .missing else .unknown

/-- Whether there is a stack, unless the reply leaves that open. -/
def existsIn (reply : Reply) : Except Failure Bool :=
  match stack.statusIn reply with
  | .ok _ => .ok true
  | .error cause =>
    if cause.isAbsenceOfStack then .ok false
    else .error (Failure.ofCall "DescribeStacks" stack.name cause)

theorem presence_of_existsIn {reply : Reply} {found : Bool} (h : stack.existsIn reply = .ok found) :
    stack.presenceIn reply = if found then .existing else .missing := by
  unfold existsIn at h
  unfold presenceIn
  cases hr : stack.statusIn reply with
  | ok status =>
      simp only [hr] at h
      cases h
      rfl
  | error cause =>
      simp only [hr] at h
      by_cases absent : cause.isAbsenceOfStack = true
      · rw [if_pos absent] at h
        cases h
        simp only [if_pos absent]
        rfl
      · rw [if_neg absent] at h
        cases h

theorem pageCall_reads (token : Option Text) : (stack.pageCall token).operation ∈ readings := by
  change "describe-stack-events" ∈ readings
  decide

theorem statusCall_reads : stack.statusCall.operation ∈ readings := by
  change "describe-stacks" ∈ readings
  decide

theorem deletionCall_changes : stack.deletionCall.operation ∉ readings := by
  change "delete-stack" ∉ readings
  decide

theorem creationCall_changes (template : String) (parameters : Parameters) :
    (stack.creationCall template parameters).operation ∉ readings := by
  change "create-stack" ∉ readings
  decide

/-- Everything that a look at the stack does is allowed. -/
structure Admits (allowed : Action → Prop) : Prop where
  idle : ∀ action, action.call? = none → allowed action
  page : ∀ token, allowed (.invoked (stack.pageCall token))
  status : allowed (.invoked stack.statusCall)

theorem admits_reads : stack.Admits Program.Reads where
  idle action quiet := by
    cases action with
    | invoked call => cases quiet
    | _ => trivial
  page := stack.pageCall_reads
  status := stack.statusCall_reads

namespace Admits

variable {stack} {allowed : Action → Prop} (admits : stack.Admits allowed)

include admits

theorem does_newestEvent : stack.newestEvent.Does allowed := by
  refine Program.Does.bind ?_ fun page => ?_
  · exact (Program.does_request (admits.page none)).remotely _ _
  · split <;> trivial

theorem does_status : stack.status.Does allowed :=
  (Program.does_request admits.status).remotely _ _

theorem does_exists : stack.exists?.Does allowed := by
  refine Program.Does.recover ?_ fun failure => ?_
  · exact Program.Does.bind (admits.does_status.bind fun _ => trivial) fun _ => trivial
  · split
    · split <;> trivial
    · trivial

end Admits

section

variable {σ α : Type} {es : List Exchange}

theorem run_events (backend : Backend σ) (token : Option Text) (s : σ) :
    (stack.events token).run backend s =
      ⟨(Outcome.ofExcept (pageIn (backend s (stack.pageCall token)).1)).mapFailure
          (Failure.ofCall "DescribeStackEvents" stack.name),
        [.invoked (stack.pageCall token)], (backend s (stack.pageCall token)).2⟩ :=
  Program.run_remotely_request ..

theorem run_status (backend : Backend σ) (s : σ) :
    stack.status.run backend s =
      ⟨(Outcome.ofExcept (stack.statusIn (backend s stack.statusCall).1)).mapFailure
          (Failure.ofCall "DescribeStacks" stack.name),
        [.invoked stack.statusCall], (backend s stack.statusCall).2⟩ :=
  Program.run_remotely_request ..

theorem run_newestEvent (backend : Backend σ) (s : σ) :
    stack.newestEvent.run backend s =
      ⟨.ofExcept (stack.newestIn (backend s stack.eventsCall).1), [.invoked stack.eventsCall],
        (backend s stack.eventsCall).2⟩ := by
  rw [newestEvent, Program.run_bind, run_events]
  unfold newestIn eventsCall
  cases pageIn (backend s (stack.pageCall none)).1 with
  | error cause => rfl
  | ok page =>
      simp only [Outcome.ofExcept, Outcome.mapFailure, Run.andThen]
      cases page.newest? <;> rfl

theorem plays_events_bind {token : Option Text} {f : EventPage → Program α}
    {outcome : Outcome α} :
    (stack.events token >>= f).Plays es outcome ↔
      ∃ reply rest, es = ⟨stack.pageCall token, reply⟩ :: rest ∧
        ((∃ page, pageIn reply = .ok page ∧ (f page).Plays rest outcome) ∨
          ∃ cause, pageIn reply = .error cause ∧ rest = [] ∧
            outcome = .failed (Failure.ofCall "DescribeStackEvents" stack.name cause)) :=
  Program.plays_remotely_request_bind

theorem plays_status_bind {f : Text → Program α} {outcome : Outcome α} :
    (stack.status >>= f).Plays es outcome ↔
      ∃ reply rest, es = ⟨stack.statusCall, reply⟩ :: rest ∧
        ((∃ status, stack.statusIn reply = .ok status ∧ (f status).Plays rest outcome) ∨
          ∃ cause, stack.statusIn reply = .error cause ∧ rest = [] ∧
            outcome = .failed (Failure.ofCall "DescribeStacks" stack.name cause)) :=
  Program.plays_remotely_request_bind

theorem checks_delete : stack.delete.Checks stack.deletionCall fun reply _ => Accepted reply := by
  intro es outcome h
  obtain ⟨reply, rfl, ⟨u, read, rfl⟩ | ⟨cause, -, rfl⟩⟩ := Program.plays_remotely_request.mp h
  · obtain ⟨answer, answered, -⟩ := ok_of_bind read
    exact ⟨reply, rfl, .inl ⟨u, ⟨answer, answered⟩, rfl⟩⟩
  · exact ⟨reply, rfl, .inr ⟨_, rfl⟩⟩

theorem checks_create (template : String) (parameters : Parameters) :
    (stack.create template parameters).Checks (stack.creationCall template parameters)
      AnswersId := by
  refine Program.Checks.remotely ?_ _ _
  unfold Service.create Service.submit
  refine Program.checks_request.andThen fun reply id read es outcome h => ?_
  obtain ⟨rfl, rfl⟩ := Program.plays_note.mp h
  obtain ⟨answer, answered, identified⟩ := ok_of_bind read
  obtain ⟨part, found, shape⟩ := Aws.responseMember_ok identified
  cases part with
  | str t =>
      cases shape
      exact ⟨rfl, .inl ⟨id, ⟨answer, answered, found⟩, rfl⟩⟩
  | _ => cases shape

theorem plays_requireDescription {outcome : Outcome Unit}
    (h : stack.requireDescription.Plays es outcome) :
    ∃ reply, es = [⟨stack.statusCall, reply⟩] ∧
      ((∃ status, stack.statusIn reply = .ok status ∧ outcome = .done ()) ∨
        ∃ cause, stack.statusIn reply = .error cause ∧
          outcome = .failed (Failure.ofCall "DescribeStacks" stack.name cause)) := by
  obtain ⟨reply, rest, rfl, ⟨status, hr, rfl, rfl⟩ | ⟨cause, hr, rfl, rfl⟩⟩ :=
    stack.plays_status_bind.mp h
  · exact ⟨reply, rfl, .inl ⟨status, hr, rfl⟩⟩
  · exact ⟨reply, rfl, .inr ⟨cause, hr, rfl⟩⟩

/-- Whether there is a stack is asked for with its status, and left open by a reply that tells neither
a status nor its absence. -/
theorem asks_exists : stack.exists?.Asks stack.statusCall stack.existsIn := by
  intro es outcome h
  unfold existsIn
  rcases Program.plays_recover.mp h with
    ⟨described, hne⟩ | ⟨failure, first, rest, rfl, described, instead⟩
  · obtain ⟨inner, asked, rfl⟩ := Program.plays_map.mp described
    obtain ⟨reply, rfl, ⟨status, hr, rfl⟩ | ⟨cause, hr, rfl⟩⟩ := stack.plays_requireDescription asked
    · exact ⟨reply, rfl, by rw [hr]; rfl⟩
    · exact absurd rfl (hne _)
  · obtain ⟨inner, asked, hf⟩ := Program.plays_map.mp described
    obtain ⟨reply, rfl, ⟨status, hr, rfl⟩ | ⟨cause, hr, rfl⟩⟩ := stack.plays_requireDescription asked
    · cases hf
    · cases hf
      rcases stack.statusIn_error hr with call | unprepared
      · rw [Failure.ofCall_eq_remote _ _ call] at instead
        change Program.Plays (if cause.isAbsenceOfStack then _ else _) rest outcome at instead
        by_cases absent : cause.isAbsenceOfStack = true
        · rw [if_pos absent] at instead
          obtain ⟨rfl, rfl⟩ := instead
          exact ⟨reply, rfl, by simp only [hr, if_pos absent]; rfl⟩
        · rw [if_neg absent] at instead
          obtain ⟨rfl, rfl⟩ := instead
          refine ⟨reply, rfl, ?_⟩
          simp only [hr, if_neg absent, Failure.ofCall_eq_remote _ _ call]
          rfl
      · have ended : rest = [] ∧ outcome = .failed cause := by
          rw [unprepared.ofCall_eq] at instead
          cases unprepared <;> exact instead
        have present : cause.isAbsenceOfStack = false := by
          cases unprepared <;> rfl
        obtain ⟨rfl, rfl⟩ := ended
        exact ⟨reply, rfl, by simp only [hr, present, unprepared.ofCall_eq]; rfl⟩

theorem checks_exists : stack.exists?.Checks stack.statusCall fun reply found =>
    stack.presenceIn reply = if found then .existing else .missing :=
  stack.asks_exists.checks fun _ _ => stack.presence_of_existsIn

end

end ClusterStack.Stack.Handle
