import ClusterStack.Cluster.ContainerRow
import ClusterStack.Cluster.Instances
import ClusterStack.Cluster.Operator
/-!
# Listing the containers of a cluster

The containers of all running tasks and then of all stopped ones. Each is shown with the public
address of the instance that its task is placed on, which is found by way of the container instance.
-/
namespace ClusterStack.Cluster.Operator

variable (operator : Operator)

def tasks (cluster desiredStatus : String) : Program (List Task) := do
  let arns ← (Service.listTasks operator.access cluster desiredStatus).remotely "ListTasks" cluster
  if arns.isEmpty then pure []
  else (Service.describeTasks operator.access cluster arns).remotely "DescribeTasks" cluster

/-- The container instances that tasks are placed on, each one once, in order. -/
def containerInstances (tasks : List Task) : List Text :=
  let arns := tasks.filterMap fun task => task.containerInstance.filter (!·.isEmpty)
  (arns.foldl (fun kept arn => if kept.contains arn then kept else kept ++ [arn]) []).mergeSort
    Text.le

def distinctValues (entries : List (Json × Json)) : Except Failure (List Json) := do
  let values ← (entries.map Prod.snd).mapM Aws.Answer.key
  match Json.sort? (Json.distinct values) with
  | some values => pure values
  | none => .error (.data .notOrdered)

def addresses (cluster : String) (tasks : List Task) : Program (List (Json × Json)) :=
  match containerInstances tasks with
  | [] => pure []
  | arns => do
    let instanceIds ← (Service.instanceIds operator.access cluster (arns.map Json.str)).remotely
      "DescribeContainerInstances" cluster
    let ids ← Program.ofExcept (distinctValues instanceIds)
    let known ← (Instances.addresses operator.access ids).remotely "DescribeInstances" cluster
    pure (instanceIds.map fun (arn, id) => (arn, (Aws.Answer.lookup? id known).getD .null))

/-- The address of the instance of a task, empty if it is not known. -/
def addressOf (addresses : List (Json × Json)) (task : Task) : String :=
  let arn := Json.str (task.containerInstance.getD "")
  (((Aws.Answer.lookup? arn addresses).bind Json.given?).map Json.display).getD ""

def rowsOf (addresses : List (Json × Json)) (task : Task) : List ContainerRow :=
  task.containers.map (ContainerRow.ofContainer (addressOf addresses task) task)

def list : Program (List ContainerRow) := do
  let cluster ← operator.chosenName
  operator.ensureActive cluster
  let runningTasks ← operator.tasks cluster running
  let stoppedTasks ← operator.tasks cluster stopped
  let tasks := runningTasks ++ stoppedTasks
  let addresses ← operator.addresses cluster tasks
  pure (tasks.flatMap (rowsOf addresses))

end ClusterStack.Cluster.Operator
