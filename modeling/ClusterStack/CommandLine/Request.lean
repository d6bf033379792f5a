import ClusterStack.Cluster.Options
import ClusterStack.CommandLine.Scan
/-!
# Requests

What a command line asks for: one of the commands with its options, for a cluster that the options
before the command may choose.
-/
namespace ClusterStack.CommandLine

def programName : String := "ecsstack"

inductive Command
  | up
  | down
  | scale
  | list
  deriving DecidableEq, Repr

namespace Command

def all : List Command := [.up, .down, .scale, .list]

def name : Command → String
  | .up => "up"
  | .down => "down"
  | .scale => "scale"
  | .list => "ps"

def names : List String := all.map name

def ofName? (s : String) : Option Command := all.find? (·.name == s)

def help : Command → String
  | .up => "Create the ECS cluster and the CloudFormation stack."
  | .down => "Delete the CloudFormation stack and the ECS cluster."
  | .scale => "Change the number of container instances."
  | .list => "List containers of running and stopped tasks."

def acknowledgement : Flag :=
  .switch "--capability-iam" "Acknowledge that this command may create IAM resources."

def flags : Command → List Flag
  | .up => [
    .forHelp,
    acknowledgement,
    .valued "--keypair" "EC2 key pair name for SSH access to the container instances.",
    .valued "--image-id"
      "AMI id for the container instances (default: recommended ECS-optimized AMI).",
    .valued "--size" "Number of container instances to launch.",
    .valued "--azs" "Two comma-separated availability zones for a new VPC.",
    .valued "--security-group" "Existing security group id (requires --vpc).",
    .valued "--cidr" "CIDR/IP range allowed to reach --port (default: 0.0.0.0/0).",
    .valued "--port" "Port opened on the security group (default: 80).",
    .valued "--subnets" "Two comma-separated subnet ids (requires --vpc).",
    .valued "--vpc" "Existing VPC id (requires --subnets).",
    .valued "--instance-type" "EC2 instance type (default: t2.micro).",
    .switch "--no-associate-public-ip-address"
      "Do not assign public IP addresses to the container instances.",
    .switch "--force" "Replace an existing CloudFormation stack for the cluster."]
  | .down => [
    .forHelp,
    .switch "--force" "Delete without asking for confirmation."]
  | .scale => [
    .forHelp,
    acknowledgement,
    .valued "--size" "New number of container instances."]
  | .list => [.forHelp]

end Command

def generalFlags : List Flag := [
  .forHelp,
  .valued "--cluster" "ECS cluster name (default: $ECSSTACK_CLUSTER).",
  .valued "--region" "AWS region (default: $ECSSTACK_REGION or the AWS CLI default).",
  .valued "--profile" "Named AWS CLI profile (default: $ECSSTACK_PROFILE).",
  .switch "--verbose" "Enable debug logging."]

inductive Order
  | up (options : Cluster.CreationOptions)
  | down (options : Cluster.DeletionOptions)
  | scale (options : Cluster.ResizeOptions)
  | list
  deriving DecidableEq, Repr

/-- The order that a command with these options gives. The options are data that has to have the
shape of the options of the command. -/
def Command.order (options : Json) : Command → Except Failure Order
  | .up =>
    (readAs Cluster.CreationOptions.title Cluster.CreationOptions.check options).map .up
  | .down =>
    (readAs Cluster.DeletionOptions.title Cluster.DeletionOptions.check options).map .down
  | .scale =>
    (readAs Cluster.ResizeOptions.title Cluster.ResizeOptions.check options).map .scale
  | .list => .ok .list

structure Request where
  choice : Cluster.Choice
  verbose : Bool
  command : Command
  options : Scan
  deriving DecidableEq, Repr

def Request.order (request : Request) : Except Failure Order :=
  request.command.order (request.options.data request.command.flags)

/-- Why there is no request: help is asked for, about the program or a command of it, or one of them
is misused. -/
structure NoRequest where
  command : Option Command
  reason : Interruption
  deriving DecidableEq, Repr

def readCommand (general : Scan) (command : Command) (arguments : List String) :
    Except NoRequest Request := do
  let scan ← (scanArguments command.flags false arguments).mapError (⟨some command, ·⟩)
  match general.unrecognized ++ scan.unrecognized with
  | [] =>
    pure {
      choice := {
        cluster := (general.value? "--cluster").join
        region := (general.value? "--region").join
        profile := (general.value? "--profile").join }
      verbose := general.has "--verbose"
      command := command
      options := scan }
  | arguments => .error ⟨none, .misuse (.unrecognized arguments)⟩

/-- The request of a command line. Arguments without a place are reported last. -/
def readRequest (arguments : List String) : Except NoRequest Request := do
  let general ← (scanArguments generalFlags true arguments).mapError (⟨none, ·⟩)
  match general.command with
  | none => .error ⟨none, .misuse .commandMissing⟩
  | some (name, rest) =>
    match Command.ofName? name with
    | none => .error ⟨none, .misuse (.unknownCommand name Command.names)⟩
    | some command => readCommand general command rest

end ClusterStack.CommandLine
