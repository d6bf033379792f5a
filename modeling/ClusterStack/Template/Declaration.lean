import ClusterStack.Stack.Parameter
import ClusterStack.Template.Intrinsic
/-!
# Parameters of the cluster template

Every parameter that the template declares, with its default. A stack that is created without a
value for a parameter takes the default.
-/
namespace ClusterStack.Template

structure Declaration where
  key : Stack.ParameterKey
  type : String
  description : String
  default : String
  constraints : List (Text × Json)

def Declaration.member (d : Declaration) : Text × Json :=
  (d.key.name, .obj (("Type", .str d.type) :: ("Description", .str d.description) ::
    ("Default", .str d.default) :: d.constraints))

def textType : String := "String"

def listType : String := "CommaDelimitedList"

def declarations : List Declaration := [
  { key := .image
    type := textType
    description := "ECS EC2 AMI id"
    default := ""
    constraints := [] },
  { key := .instanceType
    type := textType
    description := "ECS EC2 instance type"
    default := "t2.micro"
    constraints := [("ConstraintDescription", .str "must be a valid EC2 instance type.")] },
  { key := .keyPair
    type := textType
    description :=
      "Optional - Name of an existing EC2 KeyPair to enable SSH access to the ECS instances"
    default := ""
    constraints := [] },
  { key := .vpc
    type := textType
    description := "Optional - VPC Id of existing VPC. Leave blank to have a new VPC created"
    default := ""
    constraints := [
      ("AllowedPattern", .str "^(?:vpc-[0-9a-f]\x7b8,17\x7d|)$"),
      ("ConstraintDescription",
        .str "VPC Id must begin with 'vpc-' or leave blank to have a new VPC created")] },
  { key := .subnets
    type := listType
    description :=
      "Optional - Comma separated list of two (2) existing VPC Subnet Ids where ECS instances " ++
        "will run. Required if setting VpcId."
    default := ""
    constraints := [] },
  { key := .securityGroup
    type := textType
    description :=
      "Optional - Existing security group to associate the container instances. " ++
        "Creates one by default."
    default := ""
    constraints := [] },
  { key := .sourceCidr
    type := textType
    description := "Optional - CIDR/IP range for EcsPort - defaults to 0.0.0.0/0"
    default := "0.0.0.0/0"
    constraints := [] },
  { key := .port
    type := textType
    description := "Optional - Security Group port to open on ECS instances - defaults to port 80"
    default := "80"
    constraints := [] },
  { key := .zones
    type := listType
    description :=
      "Optional - Comma-delimited list of VPC availability zones in which to create subnets. " ++
        "Required if setting VpcId."
    default := ""
    constraints := [] },
  { key := .cluster
    type := textType
    description := "ECS Cluster Name"
    default := "default"
    constraints := [] },
  { key := .size
    type := "Number"
    description := "Maximum size and initial Desired Capacity of ECS Auto Scaling Group"
    default := "1"
    constraints := [] },
  { key := .publicAddress
    type := textType
    description :=
      "Optional - Automatically assign public IP addresses to new instances in this VPC."
    default := "true"
    constraints := [("AllowedValues", .arr [.str "true", .str "false"])] }]

def parameter (key : Stack.ParameterKey) : Json := ref key.name

end ClusterStack.Template
