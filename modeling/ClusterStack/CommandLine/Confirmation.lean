import ClusterStack.Program
import ClusterStack.Text.Blank
/-!
# Confirmation

Before a cluster is deleted its owner is asked. Only a clear yes is one: the word or its first
letter, in either case and with blank characters around it. Where there is no line to read, the
answer is no.
-/
namespace ClusterStack.CommandLine

def deletionQuestion (cluster : String) : String :=
  s!"Are you sure you want to delete your cluster '{cluster}'? [y/N]\n"

def firstLine? (input : String) : Option String :=
  if input == "" then none else some (String.ofList (input.toList.takeWhile (· != '\n')))

def isYes (answer : String) : Bool := ["y", "yes"].contains (Text.strip answer).toLower

/-- Whether the owner of a cluster agrees to its deletion. -/
def deletionAgreed (cluster input : String) : Program Bool :=
  match firstLine? input with
  | some answer => pure (isYes answer)
  | none => do
    Program.note .debug s!"No answer on stdin; not deleting cluster {cluster}"
    pure false

end ClusterStack.CommandLine
