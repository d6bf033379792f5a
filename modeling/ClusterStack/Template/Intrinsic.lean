import ClusterStack.Json.Basic
/-!
# Terms of a stack template

The functions that the stack service evaluates when it creates a stack, and the form in which a
template lists its resources.
-/
namespace ClusterStack.Template

def single (name : String) (v : Json) : Json := .obj [(name, v)]

def ref (name : String) : Json := single "Ref" (.str name)

def join (separator : String) (parts : Json) : Json :=
  single "Fn::Join" (.arr [.str separator, parts])

def choose (condition : String) (yes no : Json) : Json :=
  single "Fn::If" (.arr [.str condition, yes, no])

def select (index : String) (items : Json) : Json :=
  single "Fn::Select" (.arr [.str index, items])

def findInMap (table row column : String) : Json :=
  single "Fn::FindInMap" (.arr [.str table, .str row, .str column])

def isBlank (v : Json) : Json := single "Fn::Equals" (.arr [v, .str ""])

def negation (condition : Json) : Json := single "Fn::Not" (.arr [condition])

def resource (name type : String) (properties : List (Text × Json)) : Text × Json :=
  (name, .obj [("Type", .str type), ("Properties", .obj properties)])

/-- A resource that is created only under a condition, with what it waits for and its properties. -/
def resourceIf (condition name type : String) (more : List (Text × Json)) : Text × Json :=
  (name, .obj (("Condition", .str condition) :: ("Type", .str type) :: more))

def properties (members : List (Text × Json)) : List (Text × Json) :=
  [("Properties", .obj members)]

end ClusterStack.Template
