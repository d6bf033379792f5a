import ClusterStack.Aws.Answer
import ClusterStack.Aws.Call
import ClusterStack.Json.Display
/-!
# Machine images

The image that the instances of a cluster start from, where none is chosen: it is looked up in a
table of regions, or the parameter store is asked for the recommended image for a type of instance.
Types with another processor or with graphics processors need images of their own.
-/
namespace ClusterStack

/-- What an image has to be made for. -/
inductive Image.Variant
  | common
  | arm
  | graphics
  deriving DecidableEq, Repr

inductive Image.Source
  | listed (table : List (String × String))
  | recommended (instanceType profile : Option String)
  deriving DecidableEq, Repr

namespace Image

/-- A size after the family of an instance type: `medium`, or `large` after an optional number and
an optional `x`. More may follow. -/
def startsWithSize (cs : List Char) : Bool :=
  "medium".toList.isPrefixOf cs ||
    (let afterNumber := cs.dropWhile Text.isDecimalDigit
    "large".toList.isPrefixOf afterNumber || "xlarge".toList.isPrefixOf afterNumber)

def mentionsArm : List Char → Bool
  | [] => false
  | c :: cs =>
    (match "a1.".toList.isPrefixOf? (c :: cs) with
      | some size => startsWithSize size
      | none => false) || mentionsArm cs

def graphicsFamilies : List String := ["p2.", "p3.", "p3dn."]

def Variant.ofInstanceType (type : String) : Variant :=
  if mentionsArm type.toList then .arm
  else if graphicsFamilies.any fun family => family.toList.isPrefixOf type.toList then .graphics
  else .common

def Variant.parameter : Variant → String
  | .common => "/aws/service/ecs/optimized-ami/amazon-linux-2/recommended"
  | .arm => "/aws/service/ecs/optimized-ami/amazon-linux-2/arm64/recommended"
  | .graphics => "/aws/service/ecs/optimized-ami/amazon-linux-2/gpu/recommended"

/-- What the choice of an uncommon image is noted with. -/
def Variant.name? : Variant → Option String
  | .common => none
  | .arm => some "Arm"
  | .graphics => some "GPU"

def chooseParameter (instanceType : Option String) : Program String := do
  let type := instanceType.getD ""
  let variant := Variant.ofInstanceType type
  match variant.name? with
  | some name =>
    Program.note .info s!"Using {name} ecs-optimized AMI because instance type was {type}"
  | none => pure ()
  pure variant.parameter

/-- What is known about the recommended image. It is a text within the answer. -/
def readMetadata (answer : List (Text × Json)) : Except Failure Json := do
  let parameter ← Aws.Answer.required (.obj answer) "Parameter"
  let value ← Aws.Answer.required parameter "Value"
  match value with
  | .str text => (Json.read text).mapError .ofReadError
  | v => .error (.data (.notJsonText v.kind))

def readIdentifier (answer : List (Text × Json)) : Except Failure Text := do
  let metadata ← readMetadata answer
  let id ← Aws.Answer.required metadata "image_id"
  pure id.asText

def readRecommended (parameter region : String) (reply : Reply) : Except Failure Text :=
  match Aws.readReply "get-parameter" reply with
  | .error (.service e) =>
    if e.code == "ParameterNotFound" then .error (.image (.noRecommendation parameter region))
    else .error (.service e)
  | .error failure => .error failure
  | .ok answer =>
    (readIdentifier answer).mapError fun failure =>
      match failure with
      | .overNested => .overNested
      | _ => .image (.unexpectedRecommendation parameter failure.message)

def usualTable : List (String × String) := [
  ("us-east-1", "ami-2b3b6041"),
  ("us-west-1", "ami-bfe095df"),
  ("us-west-2", "ami-ac6872cd"),
  ("eu-west-1", "ami-03238b70"),
  ("eu-central-1", "ami-e1e6f88d"),
  ("ap-northeast-1", "ami-fb2f1295"),
  ("ap-southeast-1", "ami-c78f43a4"),
  ("ap-southeast-2", "ami-43547120")]

/-- The images of a table. An empty one gives way to the usual one. -/
def Source.ofTable (table : List (String × String)) : Source :=
  .listed (if table.isEmpty then usualTable else table)

def Source.find (source : Source) (region : String) : Program Text :=
  match source with
  | .listed table =>
    match Association.find? (· == region) table with
    | some id => pure (id : Text)
    | none => .fail (.image (.regionNotListed region))
  | .recommended instanceType profile => do
    let parameter ← chooseParameter instanceType
    let access : Aws.Access := ⟨some region, profile⟩
    Program.request (access.invocation "ssm" "get-parameter" [.str "--name", .str parameter])
      (readRecommended parameter region)

end Image

end ClusterStack
