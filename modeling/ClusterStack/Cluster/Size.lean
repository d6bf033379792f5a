import ClusterStack.Stack.Parameter
/-!
# The size of a cluster

The number of instances as it is written on the command line: ASCII digits for a positive number,
with blank characters around them.
-/
namespace ClusterStack.Cluster

def sizeOfText (size : String) : Except Failure Nat :=
  let digits := Text.trim size.toList
  let malformed : Failure := .parameter Stack.ParameterKey.size.name (.malformedSize size)
  if digits.isEmpty || !digits.all Text.isAsciiDigit then .error malformed
  else
    match Number.natOfDigits digits with
    | .error count => .error (.value (.longNumeral count))
    | .ok n => if n == 0 then .error malformed else .ok n

end ClusterStack.Cluster
