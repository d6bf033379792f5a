import ClusterStack.Template.Network
/-!
# The instances of the cluster template

The instances are launched by a scaling group of the given size. Each may act in a role that lets it
join the cluster, and on its first start it writes down which cluster that is.
-/
namespace ClusterStack.Template

def roleResources : List (Text × Json) := [
  resource "EcsInstanceRole" "AWS::IAM::Role" [
    ("AssumeRolePolicyDocument", .obj [
      ("Version", .str "2012-10-17"),
      ("Statement", .arr [.obj [
        ("Effect", .str "Allow"),
        ("Principal", single "Service" (.arr [.str "ec2.amazonaws.com"])),
        ("Action", .arr [.str "sts:AssumeRole"])]])]),
    ("Path", .str "/"),
    ("ManagedPolicyArns", .arr [
      .str "arn:aws:iam::aws:policy/service-role/AmazonEC2ContainerServiceforEC2Role"])],
  resource "EcsInstanceProfile" "AWS::IAM::InstanceProfile" [
    ("Path", .str "/"),
    ("Roles", .arr [ref "EcsInstanceRole"])]]

def startScript : Json :=
  single "Fn::Base64" (join "" (.arr [
    .str "#!/bin/bash\n",
    .str "echo ECS_CLUSTER=",
    parameter .cluster,
    .str " >> /etc/ecs/ecs.config\n"]))

def scalingResources : List (Text × Json) := [
  resource "EcsInstanceLc" "AWS::AutoScaling::LaunchConfiguration" [
    ("ImageId", parameter .image),
    ("InstanceType", parameter .instanceType),
    ("AssociatePublicIpAddress", parameter .publicAddress),
    ("IamInstanceProfile", ref "EcsInstanceProfile"),
    ("KeyName", choose givenKeyPair (parameter .keyPair) (ref "AWS::NoValue")),
    ("SecurityGroups", .arr [
      choose newSecurityGroup (ref "EcsSecurityGroup") (parameter .securityGroup)]),
    ("UserData", startScript)],
  resource "EcsInstanceAsg" "AWS::AutoScaling::AutoScalingGroup" [
    ("VPCZoneIdentifier",
      choose newNetwork
        (.arr [join "," (.arr [ref "PubSubnetAz1", ref "PubSubnetAz2"])])
        (parameter .subnets)),
    ("LaunchConfigurationName", ref "EcsInstanceLc"),
    ("MinSize", .str "0"),
    ("MaxSize", parameter .size),
    ("DesiredCapacity", parameter .size),
    ("Tags", .arr [.obj [
      ("Key", .str "Name"),
      ("Value", join "" (.arr [.str "ECS Instance - ", ref "AWS::StackName"])),
      ("PropagateAtLaunch", .str "true")]])]]

end ClusterStack.Template
