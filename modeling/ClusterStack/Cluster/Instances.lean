import ClusterStack.Aws.Answer
import ClusterStack.Aws.Call
/-!
# The instance service

Instances are described in reservations. What is asked for here is the public address of each.
-/
namespace ClusterStack.Cluster.Instances

def readAddress (entries : List (Json × Json)) (description : Json) :
    Except Failure (List (Json × Json)) := do
  let id ← Aws.Answer.member description "InstanceId"
  if id.isVoid then pure entries
  else
    let address ← Aws.Answer.member description "PublicIpAddress"
    Aws.Answer.store id address entries

def readReservation (entries : List (Json × Json)) (reservation : Json) :
    Except Failure (List (Json × Json)) := do
  let members ← Aws.Answer.members reservation
  let descriptions ← Aws.Answer.elementsOf members "Instances"
  descriptions.foldlM readAddress entries

def readReservations (answer : List (Text × Json)) : Except Failure (List (Json × Json)) :=
  match (Json.member? answer "Reservations").bind Json.given? with
  | none =>
    .error (.service (.invalidResponse "describe-instances" "No EC2 reservations found"))
  | some reservations => do
    (← Aws.Answer.elements reservations).foldlM readReservation []

/-- The public address of each instance, null where it has none. -/
def addresses (access : Aws.Access) (ids : List Json) : Program (List (Json × Json)) :=
  if ids.isEmpty then pure []
  else
    Aws.request (access.invocation "ec2" "describe-instances" (.str "--instance-ids" :: ids))
      readReservations

end ClusterStack.Cluster.Instances
