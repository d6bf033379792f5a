import ClusterStack.Template.Declaration
/-!
# The network of the cluster template

Unless an existing network is given, a new one is created with a subnet in each of two zones, a
gateway to the outside and a route to it. Unless an existing security group is given, a new one
opens a port.
-/
namespace ClusterStack.Template

def newNetwork : String := "CreateVpcResources"

def givenZones : String := "UseSpecifiedVpcAvailabilityZones"

def newSecurityGroup : String := "CreateSecurityGroup"

def givenKeyPair : String := "CreateEC2LCWithKeyPair"

def conditions : List (Text × Json) := [
  (newNetwork, isBlank (parameter .vpc)),
  ("ExistingVpcResources", negation (isBlank (parameter .vpc))),
  (givenZones, negation (isBlank (join "" (parameter .zones)))),
  (newSecurityGroup, isBlank (parameter .securityGroup)),
  (givenKeyPair, negation (isBlank (parameter .keyPair)))]

def rangeTable : String := "VpcCidrs"

def ranges : List (Text × Json) :=
  let range (name addresses : Text) := (name, single "cidr" (.str addresses))
  [range "vpc" "10.0.0.0/16", range "pubsubnet1" "10.0.0.0/24", range "pubsubnet2" "10.0.1.0/24"]

def range (name : String) : Json := findInMap rangeTable name "cidr"

def subnet (name rangeName index : String) : Text × Json :=
  resourceIf newNetwork name "AWS::EC2::Subnet" (properties [
    ("VpcId", ref "Vpc"),
    ("CidrBlock", range rangeName),
    ("AvailabilityZone",
      choose givenZones (select index (parameter .zones))
        (select index (single "Fn::GetAZs" (ref "AWS::Region"))))])

def routedSubnet (name subnetName : String) : Text × Json :=
  resourceIf newNetwork name "AWS::EC2::SubnetRouteTableAssociation" (properties [
    ("SubnetId", ref subnetName),
    ("RouteTableId", ref "RouteViaIgw")])

def networkResources : List (Text × Json) := [
  resourceIf newNetwork "Vpc" "AWS::EC2::VPC" (properties [
    ("CidrBlock", range "vpc"),
    ("EnableDnsSupport", .str "true"),
    ("EnableDnsHostnames", .str "true")]),
  subnet "PubSubnetAz1" "pubsubnet1" "0",
  subnet "PubSubnetAz2" "pubsubnet2" "1",
  resourceIf newNetwork "InternetGateway" "AWS::EC2::InternetGateway" [],
  resourceIf newNetwork "AttachGateway" "AWS::EC2::VPCGatewayAttachment" (properties [
    ("VpcId", ref "Vpc"),
    ("InternetGatewayId", ref "InternetGateway")]),
  resourceIf newNetwork "RouteViaIgw" "AWS::EC2::RouteTable" (properties [
    ("VpcId", ref "Vpc")]),
  resourceIf newNetwork "PublicRouteViaIgw" "AWS::EC2::Route"
    (("DependsOn", .str "AttachGateway") :: properties [
      ("RouteTableId", ref "RouteViaIgw"),
      ("DestinationCidrBlock", .str "0.0.0.0/0"),
      ("GatewayId", ref "InternetGateway")]),
  routedSubnet "PubSubnet1RouteTableAssociation" "PubSubnetAz1",
  routedSubnet "PubSubnet2RouteTableAssociation" "PubSubnetAz2",
  resourceIf newSecurityGroup "EcsSecurityGroup" "AWS::EC2::SecurityGroup" (properties [
    ("GroupDescription", .str "ECS Allowed Ports"),
    ("VpcId", choose newNetwork (ref "Vpc") (parameter .vpc)),
    ("SecurityGroupIngress", .arr [.obj [
      ("IpProtocol", .str "tcp"),
      ("FromPort", parameter .port),
      ("ToPort", parameter .port),
      ("CidrIp", parameter .sourceCidr)]])])]

end ClusterStack.Template
