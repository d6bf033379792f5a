import ClusterStack.Validation.Scalar
/-!
# Tasks and their containers

What runs on a cluster. A task is placed on one container instance and has containers, each of which
may bind ports of the instance.
-/
namespace ClusterStack.Cluster

/-- The last part of a resource name, after its last slash. -/
def shortId (arn : String) : String :=
  String.ofList (arn.toList.reverse.takeWhile (· != '/')).reverse

structure PortBinding where
  address : Option Text
  containerPort : Option Int
  hostPort : Option Int
  protocol : Option Text
  deriving DecidableEq, Repr

def PortBinding.title : String := "NetworkBinding"

def PortBinding.check : Validation.Check PortBinding :=
  Validation.object fun members =>
    PortBinding.mk <$> Validation.optional members ["bindIP", "bind_ip"] Validation.text
      <*> Validation.optional members ["containerPort", "container_port"] Validation.integer
      <*> Validation.optional members ["hostPort", "host_port"] Validation.integer
      <*> Validation.optional members ["protocol"] Validation.text

structure Container where
  arn : Option Text
  name : Text
  status : Option Text
  exitCode : Option Int
  reason : Option Text
  health : Option Text
  bindings : List PortBinding
  deriving DecidableEq, Repr

def Container.title : String := "EcsContainer"

def Container.check : Validation.Check Container :=
  Validation.object fun members =>
    Container.mk <$> Validation.optional members ["containerArn", "container_arn"] Validation.text
      <*> Validation.defaulted members ["name"] "" Validation.text
      <*> Validation.optional members ["lastStatus", "last_status"] Validation.text
      <*> Validation.optional members ["exitCode", "exit_code"] Validation.integer
      <*> Validation.optional members ["reason"] Validation.text
      <*> Validation.optional members ["healthStatus", "health_status"] Validation.text
      <*> Validation.defaulted members ["networkBindings", "network_bindings"] []
        (Validation.list PortBinding.check)

structure Task where
  arn : Text
  /-- The resource name of what it was started from. -/
  definition : Option Text
  containerInstance : Option Text
  status : Option Text
  desiredStatus : Option Text
  containers : List Container
  deriving DecidableEq, Repr

def Task.title : String := "EcsTask"

def Task.check : Validation.Check Task :=
  Validation.object fun members =>
    Task.mk <$> Validation.required members ["taskArn", "task_arn"] Validation.text
      <*> Validation.optional members ["taskDefinitionArn", "task_definition_arn"] Validation.text
      <*> Validation.optional members ["containerInstanceArn", "container_instance_arn"]
        Validation.text
      <*> Validation.optional members ["lastStatus", "last_status"] Validation.text
      <*> Validation.optional members ["desiredStatus", "desired_status"] Validation.text
      <*> Validation.defaulted members ["containers"] [] (Validation.list Container.check)

def running : String := "RUNNING"

def stopped : String := "STOPPED"

end ClusterStack.Cluster
