import ClusterStack.Cluster.Config
import ClusterStack.Stack.Parameter
/-!
# Options of the commands

What the commands that change a cluster are told besides the cluster itself. An option that stands
for a parameter of the stack counts as not given when it is empty.
-/
namespace ClusterStack.Cluster

structure CreationOptions where
  /-- It is acknowledged that the command may create roles. -/
  acknowledged : Bool
  /-- An existing stack of the cluster is replaced. -/
  force : Bool
  keyPair : Option String
  image : Option String
  size : Option String
  /-- Two zones for a new network, with a comma between them. -/
  zones : Option String
  securityGroup : Option String
  /-- The addresses from which the instances can be reached. -/
  sourceCidr : Option String
  port : Option String
  subnets : Option String
  vpc : Option String
  instanceType : Option String
  withoutPublicAddress : Bool
  deriving DecidableEq, Repr

namespace CreationOptions

def title : String := "UpOptions"

def check : Validation.Check CreationOptions :=
  Validation.object fun members =>
    let flag (name : String) := Validation.defaulted members [name] false Validation.boolean
    let option (name : String) := Validation.optional members [name] Validation.string
    CreationOptions.mk <$> flag "capability_iam" <*> flag "force" <*> option "keypair"
      <*> option "image_id" <*> option "size" <*> option "azs" <*> option "security_group"
      <*> option "cidr" <*> option "port" <*> option "subnets" <*> option "vpc"
      <*> option "instance_type" <*> flag "no_associate_public_ip_address"

/-- The options that stand for parameters of the stack, in the order in which the parameters are
submitted. -/
def parameterOptions (o : CreationOptions) : List (Stack.ParameterKey × Option String) := [
  (.size, o.size),
  (.zones, o.zones),
  (.securityGroup, o.securityGroup),
  (.sourceCidr, o.sourceCidr),
  (.port, o.port),
  (.subnets, o.subnets),
  (.vpc, o.vpc),
  (.instanceType, o.instanceType),
  (.keyPair, o.keyPair),
  (.image, o.image)]

def givenParameters (o : CreationOptions) : List (Stack.ParameterKey × String) :=
  o.parameterOptions.filterMap fun (key, value) => (nonempty? value).map (key, ·)

end CreationOptions

structure DeletionOptions where
  force : Bool
  deriving DecidableEq, Repr

namespace DeletionOptions

def title : String := "DownOptions"

def check : Validation.Check DeletionOptions :=
  Validation.object fun members =>
    DeletionOptions.mk <$> Validation.defaulted members ["force"] false Validation.boolean

end DeletionOptions

structure ResizeOptions where
  acknowledged : Bool
  size : Option String
  deriving DecidableEq, Repr

namespace ResizeOptions

def title : String := "ScaleOptions"

def check : Validation.Check ResizeOptions :=
  Validation.object fun members =>
    ResizeOptions.mk <$> Validation.defaulted members ["capability_iam"] false Validation.boolean
      <*> Validation.optional members ["size"] Validation.string

end ResizeOptions

end ClusterStack.Cluster
