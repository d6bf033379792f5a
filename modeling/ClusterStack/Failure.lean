import ClusterStack.Json.Display
import ClusterStack.Json.Reader
import ClusterStack.Text.Quoted
import ClusterStack.Validation.Checked
/-!
# Failures

What can go wrong, by cause, with the wording in one `message` for each kind of cause. A command
that is refused, rejected parameters, a stack that failed and a call that failed on the way to a
service are told apart by the constructor. Data of a shape that no step was prepared for is a
failure of its own, which nothing recovers from, and so is a text that is nested too deeply.
-/
namespace ClusterStack

/-- A call that a service answered with an error, or whose answer could not be used. -/
structure ServiceError where
  code : String
  detail : String
  operation : String
  /-- The exit code of the call, where the call itself failed. -/
  exitCode : Option Int
  deriving DecidableEq, Repr

def ServiceError.message (e : ServiceError) : String := s!"{e.code}: {e.detail}"

/-- An answer that was given but cannot be used. -/
def ServiceError.invalidResponse (operation detail : String) : ServiceError :=
  ⟨"InvalidResponse", detail, operation, none⟩

inductive SystemFault
  | notFound (file : String)
  | notPermitted (file : String)
  deriving DecidableEq, Repr

def SystemFault.message : SystemFault → String
  | .notFound file => s!"[Errno 2] No such file or directory: {Text.quoted file}"
  | .notPermitted file => s!"[Errno 13] Permission denied: {Text.quoted file}"

inductive ValueFault
  | stated (reason : String)
  | longNumeral (digits : Nat)
  | unreadable (what : Json.Expectation) (line column index : Nat)
  | undecodable
  | invalid (report : Validation.Report)
  deriving DecidableEq, Repr

def ValueFault.message : ValueFault → String
  | .stated reason => reason
  | .longNumeral digits => Number.tooManyDigits digits
  | .unreadable what line column index =>
    (Json.ReadError.unexpected what line column index).message
  | .undecodable => "the text is not valid UTF-8"
  | .invalid report => report.message

/-- Data is used in a way that its shape does not allow. -/
inductive DataFault
  | noMembers (kind : String)
  | absent (key : String)
  | notIndexed (kind : String)
  | listNeedsNumber
  | textNeedsNumber
  | notListed (kind : String)
  | notAKey (kind : String)
  | notOrdered
  | timesNotOrdered
  | notJsonText (kind : String)
  deriving DecidableEq, Repr

def DataFault.message : DataFault → String
  | .noMembers kind => s!"'{kind}' object has no attribute 'get'"
  | .absent key => Text.quoted key
  | .notIndexed kind => s!"'{kind}' object is not subscriptable"
  | .listNeedsNumber => "list indices must be integers or slices, not str"
  | .textNeedsNumber => "string indices must be integers, not 'str'"
  | .notListed kind => s!"'{kind}' object is not iterable"
  | .notAKey kind => s!"unhashable type: '{kind}'"
  | .notOrdered => "'<' not supported between instances of different kinds"
  | .timesNotOrdered => "can't compare offset-naive and offset-aware datetimes"
  | .notJsonText kind => s!"the JSON object must be str, bytes or bytearray, not {kind}"

/-- Why a command is refused before it changes anything. -/
inductive Refusal
  | iamNotAcknowledged
  | clusterNotNamed
  | stackExists (cluster : String)
  | keyPairNotGiven
  | vpcAndZones
  | zonesNotTwo
  | securityGroupWithoutVpc
  | vpcWithoutSubnets
  | subnetsWithoutVpc
  | imageUnknown
  | deletionNotConfirmed
  | sizeNotGiven
  | clusterNotActive (cluster : String)
  | stackNotFound (cluster : String)
  | stated (reason : String)
  deriving DecidableEq, Repr

def Refusal.message : Refusal → String
  | .iamNotAcknowledged =>
    "Please acknowledge that this command may create IAM resources with the '--capability-iam' flag"
  | .clusterNotNamed =>
    "Please configure a cluster using the ECSSTACK_CLUSTER environment variable or the " ++
      "'--cluster' flag"
  | .stackExists cluster =>
    s!"A CloudFormation stack already exists for the cluster '{cluster}'. " ++
      "Please specify '--force' to clean up your existing resources"
  | .keyPairNotGiven => "Please specify the keypair name with '--keypair' flag"
  | .vpcAndZones => "You can only specify '--vpc' or '--azs'"
  | .zonesNotTwo =>
    "You must specify 2 comma-separated availability zones with the '--azs' flag"
  | .securityGroupWithoutVpc =>
    "You have selected a security group. Please specify a VPC with the '--vpc' flag"
  | .vpcWithoutSubnets =>
    "You have selected a VPC. Please specify 2 comma-separated subnets with the '--subnets' flag"
  | .subnetsWithoutVpc => "You have selected subnets. Please specify a VPC with the '--vpc' flag"
  | .imageUnknown =>
    "Please specify '--image-id' or configure a region with the '--region' flag"
  | .deletionNotConfirmed =>
    "Aborted cluster deletion. To delete your cluster, re-run this command and specify the " ++
      "'--force' flag"
  | .sizeNotGiven => "Missing required flag '--size'"
  | .clusterNotActive cluster => s!"Cluster '{cluster}' is not active. Ensure that it exists"
  | .stackNotFound cluster => s!"CloudFormation stack not found for cluster '{cluster}'"
  | .stated reason => reason

inductive ParameterFault
  | notFound
  | blankKey
  | neitherValueNorPrevious
  | malformedSize (size : String)
  | stated (reason : String)
  deriving DecidableEq, Repr

def ParameterFault.message (key : String) : ParameterFault → String
  | .notFound => s!"Parameter not found: '{key}'"
  | .blankKey => s!"Invalid parameter key: {Text.quoted key}"
  | .neitherValueNorPrevious =>
    s!"ParameterValue and UsePreviousValue not set for parameter key '{key}'"
  | .malformedSize size => s!"Invalid value '{size}' for '--size': expected a positive integer"
  | .stated reason => reason

inductive ImageFault
  | regionNotListed (region : String)
  | noRecommendation (parameter region : String)
  | unexpectedRecommendation (parameter problem : String)
  | stated (reason : String)
  deriving DecidableEq, Repr

def ImageFault.message : ImageFault → String
  | .regionNotListed region => s!"Could not find ami id for region '{region}'"
  | .noRecommendation parameter region =>
    s!"Could not find Recommended Amazon Linux 2 AMI {parameter} in {region}; " ++
      "the AMI may not be supported in this region"
  | .unexpectedRecommendation parameter problem =>
    s!"Unexpected value for SSM parameter {parameter}: {problem}"
  | .stated reason => reason

inductive StackFault
  | noEvents
  | noFailedEvent
  | resourceFailed (awaited reason : String)
  | failedStatus (awaited status : String)
  | timedOut (awaited : String) (attempts : Int)
  | stated (reason : String)
  | statedFailure (reason : String) (status eventReason : Option String)
  deriving DecidableEq, Repr

def StackFault.message (stack : String) : StackFault → String
  | .noEvents => s!"Could not describe stack events for '{stack}'"
  | .noFailedEvent => s!"Unable to find failure event in stack '{stack}'"
  | .resourceFailed awaited reason =>
    s!"Cloudformation failure waiting for '{awaited}'. Reason: '{reason}'"
  | .failedStatus awaited status =>
    s!"Cloudformation failure waiting for '{awaited}'. State is '{status}'"
  | .timedOut awaited attempts =>
    s!"Timeout waiting for stack '{stack}' to reach '{awaited}' after {attempts} attempts"
  | .stated reason => reason
  | .statedFailure reason _ _ => reason

/-- What can end a command or a call before its result. -/
inductive Failure
  | stated (reason : String)
  | refused (refusal : Refusal)
  | parameter (key : String) (fault : ParameterFault)
  | image (fault : ImageFault)
  | stack (name : String) (fault : StackFault)
  | remote (operation resource : String) (cause : Failure)
  | service (error : ServiceError)
  | system (fault : SystemFault)
  | value (fault : ValueFault)
  | data (fault : DataFault)
  | overNested
  | crash (reason : String)
  deriving DecidableEq, Repr

namespace Failure

def message : Failure → String
  | .stated reason => reason
  | .refused refusal => refusal.message
  | .parameter key fault => fault.message key
  | .image fault => fault.message
  | .stack name fault => fault.message name
  | .remote operation resource cause => s!"{operation} failed for '{resource}': {cause.message}"
  | .service error => error.message
  | .system fault => fault.message
  | .value fault => fault.message
  | .data fault => fault.message
  | .overNested => Json.ReadError.overNested.message
  | .crash reason => reason

/-- The failure to read a JSON text. One that is nested too deeply is not merely unfit. -/
def ofReadError : Json.ReadError → Failure
  | .unexpected what line column index => .value (.unreadable what line column index)
  | .longInteger digits => .value (.longNumeral digits)
  | .overNested => .overNested

def isReported : Failure → Bool
  | .stated _ | .refused _ | .parameter _ _ | .image _ | .stack _ _ | .remote _ _ _ => true
  | _ => false

def isOfCall : Failure → Bool
  | .service _ | .system _ | .value _ => true
  | _ => false

/-- The failure as one of a remote call, if it is of a kind that a call can end with. -/
def ofCall (operation resource : String) (f : Failure) : Failure :=
  if f.isOfCall then .remote operation resource f else f

def holds (needle : List Char) : List Char → Bool
  | [] => needle.isEmpty
  | c :: cs => needle.isPrefixOf (c :: cs) || holds needle cs

/-- The failure is the error with which a service says that a stack does not exist. -/
def isAbsenceOfStack : Failure → Bool
  | .service error =>
    error.code == "ValidationError" && holds "does not exist".toList error.detail.toList
  | _ => false

/-- The failure, or the cause of a failed remote call, says that a stack does not exist. -/
def tellsAbsenceOfStack : Failure → Bool
  | .remote _ _ cause => cause.isAbsenceOfStack
  | f => f.isAbsenceOfStack

end Failure

/-- The value that data stands for. Data of another shape is an unfit value, reported under the name
of the shape. -/
def readAs {α : Type} (title : String) (check : Validation.Check α) (data : Json) :
    Except Failure α :=
  ((check data).titled title).mapError fun report => .value (.invalid report)

end ClusterStack
