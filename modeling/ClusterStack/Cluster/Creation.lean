import ClusterStack.Cluster.Operator
import ClusterStack.Cluster.Options
import ClusterStack.Cluster.Size
/-!
# Creating a cluster

The cluster is created first and its stack after it, because the instances of the stack join the
cluster. All guards come before the cluster is created: the acknowledgement, the name, the size,
that no stack is in the way, the key pair and the network. If the stack fails, the cluster stays.
-/
namespace ClusterStack.Cluster

def CreationOptions.parameters (o : CreationOptions) (cluster : String) (size : Option Nat) :
    Stack.Parameters :=
  let given : Stack.Parameters :=
    o.givenParameters.foldl (fun set (key, value) => Stack.Parameters.put set key value) .empty
  let named := given.put .cluster cluster
  let addressed := if o.withoutPublicAddress then named.put .publicAddress "false" else named
  match size with
  | some n => addressed.put .size (toString n)
  | none => addressed

def partCount (t : Text) : Nat := t.codes.count (.char ',') + 1

/-- What is wrong with the network that the parameters describe. A network is either created in two
zones or given with its subnets, and only a given one has a security group. -/
def networkFault? (parameters : Stack.Parameters) : Option Refusal :=
  let given := parameters.has
  let zoneCount := partCount (((parameters.find? Stack.ParameterKey.zones.name).bind
    Stack.Parameter.value).getD "")
  if given .zones && given .vpc then some .vpcAndZones
  else if given .zones && zoneCount != 2 then some .zonesNotTwo
  else if given .securityGroup && !given .vpc then some .securityGroupWithoutVpc
  else if given .vpc && !given .subnets then some .vpcWithoutSubnets
  else if given .subnets && !given .vpc then some .subnetsWithoutVpc
  else none

namespace Operator

variable (operator : Operator)

def givenSize (o : CreationOptions) : Program (Option Nat) :=
  match nonempty? o.size with
  | some size => .ofExcept ((sizeOfText size).map some)
  | none => pure none

/-- There must not be a stack unless it may be replaced. The answer is whether there is one. -/
def ensureRoom (cluster : String) (force : Bool) : Program Bool := do
  let found ← operator.stack.exists?
  ensure (!found || force) (.stackExists cluster)
  pure found

def ensureNetwork (parameters : Stack.Parameters) : Program Unit :=
  match networkFault? parameters with
  | some fault => refuse fault
  | none => pure ()

def findImage : Program Text :=
  match nonempty? operator.config.region with
  | none => refuse .imageUnknown
  | some region => do
    let image ← (operator.images.find region).remotely "ResolveImageId" region
    Program.note .debug s!"Resolved default image {image} for region {region}"
    pure image

/-- The parameters with an image, which is looked up if none is given. -/
def withImage (parameters : Stack.Parameters) : Program Stack.Parameters :=
  if parameters.has .image then pure parameters
  else do
    let image ← operator.findImage
    pure (parameters.put .image image)

def removeStack : Program Unit := do
  operator.stack.delete
  Program.note .info "Waiting for your CloudFormation stack resources to be deleted..."
  operator.stack.awaitDeletion operator.pages

/-- Creates the stack with these parameters, waits until it is complete and answers its
identifier. -/
def createStack (parameters : Stack.Parameters) : Program Text := do
  let template ← operator.template.remotely "ReadTemplate" operator.stack.name
  let id ← operator.stack.create template parameters
  Program.note .info "Waiting for your cluster resources to be created..."
  operator.stack.awaitCreation operator.pages
  pure id

/-- Creates the cluster and its stack, and answers the identifier of the stack. -/
def create (o : CreationOptions) : Program Text := do
  ensure o.acknowledged .iamNotAcknowledged
  let cluster ← operator.chosenName
  let size ← givenSize o
  let parameters := o.parameters cluster size
  let replacing ← operator.ensureRoom cluster o.force
  ensure (parameters.has .keyPair) .keyPairNotGiven
  ensureNetwork parameters
  let parameters ← operator.withImage parameters
  Program.ofExcept parameters.validate
  let _ ← (Service.create operator.access cluster).remotely "CreateCluster" cluster
  if replacing then operator.removeStack
  operator.createStack parameters

end Operator

end ClusterStack.Cluster
