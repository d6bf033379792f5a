import ClusterStack.Cluster.Config
import ClusterStack.Cluster.Service
import ClusterStack.Image
import ClusterStack.Stack.Wait
/-!
# Acting on a cluster

Every command is a series of guards followed by calls. A guard that fails ends the command before
any later step. Nothing that was done before is taken back.
-/
namespace ClusterStack.Cluster

/-- A cluster and the means to act on it and its stack. -/
structure Operator where
  config : Config
  images : Image.Source
  template : Program String
  /-- How many pages are read at most in the history of its stack. -/
  pages : Nat

namespace Operator

variable (operator : Operator)

def access : Aws.Access := ⟨operator.config.region, operator.config.profile⟩

def stack : Stack.Handle := ⟨Stack.Service.usual operator.access, operator.config.stackName⟩

def refuse {α : Type} (refusal : Refusal) : Program α := .fail (.refused refusal)

def ensure (condition : Bool) (refusal : Refusal) : Program Unit :=
  if condition then pure () else refuse refusal

def chosenName : Program String := do
  ensure (operator.config.cluster != "") .clusterNotNamed
  pure operator.config.cluster

def ensureActive (cluster : String) : Program Unit := do
  let active ← (Service.isActive operator.access cluster).remotely "DescribeClusters" cluster
  ensure active (.clusterNotActive cluster)

def existingStack (cluster : String) : Program Stack.Handle := do
  let found ← operator.stack.exists?
  ensure found (.stackNotFound cluster)
  pure operator.stack

end Operator

end ClusterStack.Cluster
