import ClusterStack.Aws.Script
import ClusterStack.Json.Writer
import ClusterStack.Proofs.Exchanges
/-!
# Rehearsals

Scripts for single runs, in which every reply is laid down as the value that it is to be read as.
-/
namespace ClusterStack

def Stack.bytes (output : String) : List UInt8 := output.toList.map fun c => UInt8.ofNat c.toNat

deriving instance DecidableEq for Outcome

/-- The value as the answer to a call, given this number of times. -/
def Aws.Cue.answering (v : Json) (times : Int) : Aws.Cue :=
  ⟨.exited 0 (Stack.bytes v.toText) [], times⟩

/-- A call that fails with what it prints. -/
def Aws.Cue.refusing (message : String) : Aws.Cue := ⟨.exited 254 [] (Stack.bytes message), 1⟩

/-- The cluster is active, and its stack has this status. -/
def Aws.standing (status : String) : Aws.Script := [
  ("describe-clusters", [.answering (.obj [("clusters", .arr [.obj [("status", .str "ACTIVE")]])]) 1]),
  ("describe-stacks", [.answering (.obj [("Stacks", .arr [.obj [("StackStatus", .str status)]])]) 1])]

end ClusterStack
