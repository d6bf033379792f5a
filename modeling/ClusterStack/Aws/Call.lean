import ClusterStack.Aws.ErrorText
import ClusterStack.Program
import ClusterStack.Text.Utf8
/-!
# Calls of the `aws` program

The arguments that the program is run with, and what its reply means. A failed run is a service
error with the code and detail that it printed. A successful one that printed nothing is the empty
object, and otherwise it has to have printed a JSON object.
-/
namespace ClusterStack

def givenFlag (flag : String) : Option String → List Json
  | some value => if value == "" then [] else [.str flag, .str value]
  | none => []

/-- The arguments of the `aws` program. Its answer is always asked for in JSON. -/
def Invocation.commandLine (call : Invocation) : List Json :=
  .str call.service :: .str call.operation :: call.arguments ++ [.str "--output", .str "json"] ++
    givenFlag "--region" call.region ++ givenFlag "--profile" call.profile

namespace Aws

structure Access where
  /-- The region to call, or the one that the `aws` program is set up for. -/
  region : Option String
  profile : Option String
  deriving DecidableEq, Repr

def Access.invocation (access : Access) (service operation : String) (arguments : List Json) :
    Invocation :=
  ⟨service, operation, arguments, access.region, access.profile⟩

/-- What a run printed, without blank characters around it. Bytes that are not UTF-8 are
replaced. -/
def printed (bytes : List UInt8) : String := String.ofList (Text.trim (Text.decodeLossy bytes))

def readOutput (operation : String) (output : String) :
    Except Failure (List (Text × Json)) :=
  if output == "" then .ok []
  else
    match Json.read output with
    | .ok (.obj members) => .ok members
    | .ok _ =>
      .error (.service (.invalidResponse operation "Expected a JSON object in the response"))
    | .error (.longInteger digits) => .error (.value (.longNumeral digits))
    | .error .overNested => .error .overNested
    | .error e =>
      .error (.service (.invalidResponse operation s!"Could not parse JSON output: {e.message}"))

/-- The object that the reply to a call holds. -/
def readReply (operation : String) : Reply → Except Failure (List (Text × Json))
  | .notStarted fault => .error fault.failure
  | .exited code output errors =>
    if code == 0 then readOutput operation (printed output)
    else
      let (errorCode, detail) := readErrorText (printed errors)
      .error (.service ⟨errorCode, detail, operation, some code⟩)

def request {α : Type} (call : Invocation) (read : List (Text × Json) → Except Failure α) :
    Program α :=
  Program.request call fun reply => (readReply call.operation reply).bind read

def answer (call : Invocation) : Program (List (Text × Json)) := request call .ok

/-- A part of an answer that has to be there. If its reading finds it unfit, so is the answer. -/
def responseMember {α : Type} (answer : Json) (key : String) (read : Json → Except Failure α)
    (operation : String) : Except Failure α :=
  let unusable (detail : String) : Except Failure α :=
    .error (.service (.invalidResponse operation detail))
  match answer with
  | .obj members =>
    match Json.member? members key with
    | none => unusable s!"Response is missing '{key}'"
    | some part =>
      match read part with
      | .error (.value fault) => unusable s!"Unexpected '{key}' in response: {fault.message}"
      | outcome => outcome
  | _ => unusable s!"Response is missing '{key}'"

end Aws

end ClusterStack
