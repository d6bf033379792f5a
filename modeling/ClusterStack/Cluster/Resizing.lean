import ClusterStack.Cluster.Operator
import ClusterStack.Cluster.Options
import ClusterStack.Cluster.Size
/-!
# Changing the size of a cluster

The stack is updated with the new size, and every other parameter keeps the value that the stack
has.
-/
namespace ClusterStack.Cluster.Operator

variable (operator : Operator)

/-- The parameters of an update that changes the size alone. -/
def resized (size : Nat) : Stack.Parameters :=
  Stack.Parameters.keepingAll.put .size (toString size)

def resize (o : ResizeOptions) : Program Unit := do
  ensure o.acknowledged .iamNotAcknowledged
  let some size := nonempty? o.size | refuse .sizeNotGiven
  let size ← Program.ofExcept (sizeOfText size)
  let cluster ← operator.chosenName
  operator.ensureActive cluster
  let stack ← operator.existingStack cluster
  let _ ← stack.update (resized size)
  Program.note .info "Waiting for your cluster resources to be updated..."
  stack.awaitUpdate operator.pages

end ClusterStack.Cluster.Operator
