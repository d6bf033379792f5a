import ClusterStack.CommandLine.Session
/-!
# The program

The outer layer of the command line. A session is a pure function of the behaviour of the outside,
and here the outside answers for real. Programs are not started from here: each call of the `aws`
program is written as one line to the output, a JSON array of its arguments, and the reply is read
as three lines: the exit code, what was printed and what was printed apart from it, each text as a
JSON string.
-/
namespace ClusterStack.Main

open CommandLine

def readLine : IO String := do
  return Text.stripEnd (← (← IO.getStdin).getLine)

def readBytes : IO (List UInt8) := do
  match Json.read (← readLine) with
  | .ok (.str t) => return t.toString.toUTF8.toList
  | _ => return []

def invoke (call : Invocation) : IO Reply := do
  IO.println (Json.arr (.str "aws" :: call.commandLine)).toText
  let code := (← readLine).toInt?.getD 1
  let output ← readBytes
  let errors ← readBytes
  return .exited code output errors

def perform {α : Type} (verbose : Bool) : Program α → IO (Outcome α)
  | .done a => return .done a
  | .fail failure => return .failed failure
  | .unfinished => return .unfinished
  | .invoke call next => do perform verbose (next (← invoke call))
  | .log level message next => do
    IO.eprint (noteText verbose (.logged level message))
    perform verbose next
  | .pause milliseconds next => do
    IO.sleep milliseconds.toUInt32
    perform verbose next

def readEnvironment : IO (List (String × String)) := do
  let names := ["ECSSTACK_CLUSTER", "ECSSTACK_REGION", "ECSSTACK_PROFILE",
    "ECSSTACK_STACK_NAME_PREFIX"]
  let values ← names.mapM fun name => IO.getEnv name
  return (names.zip values).filterMap fun (name, value) => value.map (name, ·)

/-- The most pages of a history that are read. -/
def pages : Nat := 100000

def serve (request : Request) (config : Cluster.Config) : IO UInt32 := do
  let command := request.command
  let input ← match request.question? config with
    | some question => do
      IO.print question
      (← IO.getStdin).getLine
    | none => pure ""
  match ← perform request.verbose (request.program config input pages) with
  | .done output => do
    IO.print output
    return 0
  | .failed failure => do
    IO.eprint (if isReported failure then failureText command failure else failure.message ++ "\n")
    return 1
  | .unfinished => return 1

end ClusterStack.Main

open ClusterStack ClusterStack.CommandLine in
def main (arguments : List String) : IO UInt32 := do
  match readRequest arguments with
  | .error ⟨command, .help⟩ => do
    IO.print (helpText command)
    return 0
  | .error ⟨command, .misuse misuse⟩ => do
    IO.eprint (misuseText command misuse)
    return 2
  | .ok request =>
    match request.config (← Main.readEnvironment) with
    | .error failure => do
      IO.eprint (failureText request.command failure)
      return 1
    | .ok config => Main.serve request config
