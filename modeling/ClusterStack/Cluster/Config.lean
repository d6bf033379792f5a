import ClusterStack.Failure
import ClusterStack.Validation.Scalar
/-!
# The configuration of a cluster

A cluster is known by its name, and its stack by the name with a prefix. Name, region and profile
come from the command line or else from variables of the environment.
-/
namespace ClusterStack.Cluster

def usualStackPrefix : String := "amazon-ecs-cli-setup-"

structure Config where
  /-- The name of the cluster, empty if none is chosen. -/
  cluster : String
  region : Option String
  profile : Option String
  stackPrefix : String
  deriving DecidableEq, Repr

namespace Config

def title : String := "ClusterConfig"

/-- The name of a cluster holds no blank character and no slash. -/
def nameRule (cluster : String) : Option Validation.Problem :=
  if cluster.toList.any fun c => Text.isBlank c || c == '/' then
    some (.rule "Whitespace/slash not allowed in 'cluster'.")
  else none

def checkName : Validation.Check String := fun v => (Validation.string v).ensuring nameRule

def check : Validation.Check Config :=
  Validation.object fun members =>
    Config.mk <$> Validation.defaulted members ["cluster"] "" checkName
      <*> Validation.optional members ["region"] Validation.string
      <*> Validation.optional members ["profile"] Validation.string
      <*> Validation.defaulted members ["stack_name_prefix"] usualStackPrefix Validation.string

def checked (config : Config) : Except Failure Config :=
  match nameRule config.cluster with
  | none => .ok config
  | some problem => .error (.value (.invalid ⟨title, [⟨[.member "cluster"], problem⟩]⟩))

def stackName (config : Config) : String := config.stackPrefix ++ config.cluster

end Config

/-- What the environment says about the cluster. -/
structure Settings where
  cluster : String
  region : Option String
  profile : Option String
  stackPrefix : String
  deriving DecidableEq, Repr

namespace Settings

/-- A letter in lower case, where the letter or its lower case is an ASCII letter. Besides the
capital letters the sign for the kelvin has such a lower case. -/
def lowerLetter (c : Char) : Char := if c == '\u212A' then 'k' else c.toLower

def variablePrefix : String := "ecsstack_"

/-- The value of the last variable for a setting. The case of the letters in the names of variables
does not matter. -/
def find? (environment : List (String × String)) (setting : String) : Option String :=
  Association.find? (fun name => name.map lowerLetter == variablePrefix ++ setting)
    environment.reverse

def ofEnvironment (environment : List (String × String)) : Settings where
  cluster := (find? environment "cluster").getD ""
  region := find? environment "region"
  profile := find? environment "profile"
  stackPrefix := (find? environment "stack_name_prefix").getD usualStackPrefix

end Settings

/-- What the command line says about the cluster. -/
structure Choice where
  cluster : Option String
  region : Option String
  profile : Option String
  deriving DecidableEq, Repr

def nonempty? (s : Option String) : Option String := s.filter (· != "")

/-- The configuration from the settings, in which each non-empty choice takes precedence. -/
def Settings.config (settings : Settings) (choice : Choice) : Except Failure Config :=
  Config.checked {
    cluster := (nonempty? choice.cluster).getD settings.cluster
    region := (nonempty? choice.region).or settings.region
    profile := (nonempty? choice.profile).or settings.profile
    stackPrefix := settings.stackPrefix }

end ClusterStack.Cluster
