import ClusterStack.Aws.Answer
import ClusterStack.Aws.Call
import ClusterStack.Cluster.Task
import ClusterStack.Json.Display
/-!
# The cluster service

The calls that create, delete and describe a cluster, and ask for what runs on it. Tasks and
container instances are described in batches, of which the answers are put together in order.
-/
namespace ClusterStack.Cluster.Service

variable (access : Aws.Access)

def invocation (operation : String) (arguments : List Json) : Invocation :=
  access.invocation "ecs" operation arguments

/-- The greatest number of tasks or instances that are described in one call. -/
def batchSize : Nat := 100

/-- A list in parts of the given size, the last one of which may be shorter. -/
def batchesOf {α : Type} (size : Nat) : Nat → List α → List (List α)
  | _, [] => []
  | 0, _ => []
  | count + 1, items => items.take size :: batchesOf size count (items.drop size)

def batches {α : Type} (items : List α) : List (List α) :=
  batchesOf batchSize items.length items

/-- The name of a cluster in an answer about it. The name that was asked for stands in for a missing
one. -/
def readName (operation asked : String) (answer : List (Text × Json)) : Except Failure Json :=
  (Aws.responseMember (.obj answer) "cluster" (readAs "dict[any,any]" Validation.anyMap)
    operation).map fun members => (Json.member? members "clusterName").getD (.str asked)

/-- Creates a cluster, or finds the one that there is, and answers its name. -/
def create (cluster : String) : Program Json := do
  let call := invocation access "create-cluster" [.str "--cluster-name", .str cluster]
  let name ← Aws.request call (readName "create-cluster" cluster)
  Program.note .info s!"Created cluster {name.display}"
  pure name

def delete (cluster : String) : Program Json := do
  let call := invocation access "delete-cluster" [.str "--cluster", .str cluster]
  let name ← Aws.request call (readName "delete-cluster" cluster)
  Program.note .info s!"Deleted cluster {name.display}"
  pure name

/-- The status of the first cluster that an answer describes, or nothing where the answer reports
failures. -/
def readStatus? (cluster : String) (answer : List (Text × Json)) : Except Failure (Option Json) :=
  match (Json.member? answer "failures").bind Json.given? with
  | some _ => .ok none
  | none =>
    match (Json.member? answer "clusters").bind Json.given? with
    | none =>
      .error (.service (.invalidResponse "describe-clusters"
        s!"Got an empty list of clusters while describing the cluster '{cluster}'"))
    | some clusters => do
      let description ← Aws.Answer.first clusters
      let status ← Aws.Answer.member description "status"
      pure (some status)

def active : String := "ACTIVE"

def isActive (cluster : String) : Program Bool := do
  let call := invocation access "describe-clusters" [.str "--clusters", .str cluster]
  match ← Aws.request call (readStatus? cluster) with
  | none => pure false
  | some status =>
    if status.text? == some (active : Text) then pure true
    else do
      Program.note .debug s!"Cluster {cluster} status: {status.display}"
      pure false

def listTasks (cluster desiredStatus : String) : Program (List Json) :=
  let call := invocation access "list-tasks"
    [.str "--cluster", .str cluster, .str "--desired-status", .str desiredStatus]
  Aws.request call fun answer => Aws.Answer.elementsOf answer "taskArns"

def gather {α β : Type} (act : α → Program (List β)) : List α → Program (List β)
  | [] => pure []
  | a :: rest => do
    let first ← act a
    let others ← gather act rest
    pure (first ++ others)

def describeBatch (cluster : String) (tasks : List Json) : Program (List Task) :=
  let call := invocation access "describe-tasks"
    (.str "--cluster" :: .str cluster :: .str "--tasks" :: tasks)
  Aws.request call fun answer =>
    Aws.responseMember (.obj answer) "tasks"
      (readAs "list[EcsTask]" (Validation.list Task.check)) "describe-tasks"

def describeTasks (cluster : String) (tasks : List Json) : Program (List Task) :=
  gather (describeBatch access cluster) (batches tasks)

def readInstance (entries : List (Json × Json)) (description : Json) :
    Except Failure (List (Json × Json)) := do
  let arn ← Aws.Answer.member description "containerInstanceArn"
  if arn.isVoid then pure entries
  else
    let id ← Aws.Answer.member description "ec2InstanceId"
    if id.isVoid then pure entries else Aws.Answer.store arn id entries

def instancesOfBatch (cluster : String) (entries : List (Json × Json)) (arns : List Json) :
    Program (List (Json × Json)) :=
  let call := invocation access "describe-container-instances"
    (.str "--cluster" :: .str cluster :: .str "--container-instances" :: arns)
  Aws.request call fun answer => do
    let descriptions ← Aws.Answer.elementsOf answer "containerInstances"
    descriptions.foldlM readInstance entries

def instanceIds (cluster : String) (arns : List Json) : Program (List (Json × Json)) :=
  (batches arns).foldlM (instancesOfBatch access cluster) []

end ClusterStack.Cluster.Service
