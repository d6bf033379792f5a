import ClusterStack.Cluster.Operator
import ClusterStack.Cluster.Options
/-!
# Deleting a cluster

The stack goes first and the cluster last, when the stack has released the instances of the cluster.
-/
namespace ClusterStack.Cluster.Operator

variable (operator : Operator)

/-- Deletes the stack of the cluster, waits until it is gone and deletes the cluster. -/
def delete (o : DeletionOptions) : Program Unit := do
  ensure o.force .deletionNotConfirmed
  let cluster ← operator.chosenName
  operator.ensureActive cluster
  let stack ← operator.existingStack cluster
  stack.delete
  Program.note .info "Waiting for your cluster resources to be deleted..."
  stack.awaitDeletion operator.pages
  let _ ← (Service.delete operator.access cluster).remotely "DeleteCluster" cluster
  pure ()

end ClusterStack.Cluster.Operator
