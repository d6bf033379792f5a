import ClusterStack.Aws.Answer
import ClusterStack.Json.Layout
import ClusterStack.Template.Instances
import ClusterStack.Text.Utf8
/-!
# Template documents

The template that the stack of a cluster is created from, and what can be asked of the text of any
template: the keys of the parameters that it declares. A template is passed to the stack service as
it stands.
-/
namespace ClusterStack.Template

def document : Json := .obj [
  ("AWSTemplateFormatVersion", .str "2010-09-09"),
  ("Description",
    .str ("AWS CloudFormation template to create resources required to run tasks on an ECS " ++
      "cluster.")),
  ("Mappings", single rangeTable (.obj ranges)),
  ("Parameters", .obj (declarations.map Declaration.member)),
  ("Conditions", .obj conditions),
  ("Resources", .obj (networkResources ++ roleResources ++ scalingResources))]

def width : Nat := 96

def packaged : String := document.inLines width ++ "\n"

def declaredKeys (body : String) : Except Failure (List Text) := do
  let template ← (Json.read body).mapError .ofReadError
  let members ← Aws.Answer.members template
  let declared ← Aws.Answer.members ((Json.member? members "Parameters").getD (.obj []))
  pure (declared.map Prod.fst)

/-- Characters in which every line ends with a line feed alone. -/
def unifyLineEnds : List Char → List Char
  | [] => []
  | '\r' :: '\n' :: rest => '\n' :: unifyLineEnds rest
  | c :: rest => (if c == '\r' then '\n' else c) :: unifyLineEnds rest

def ofBytes (bytes : List UInt8) : Except Failure String :=
  match Text.decode? bytes with
  | some cs => .ok (String.ofList (unifyLineEnds cs))
  | none => .error (.value .undecodable)

end ClusterStack.Template
