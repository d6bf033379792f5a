import ClusterStack.Association
import ClusterStack.Number.Binary64
import ClusterStack.Text.Basic
/-!
# JSON values

A value as it is read from a text: integers of any size are told apart from floating-point numbers,
and the members of an object stay in order. Members of an object that was read have distinct names.
-/
namespace ClusterStack

inductive Json
  | null
  | bool (b : Bool)
  | int (i : Int)
  | float (x : Number.Binary64)
  | str (t : Text)
  | arr (items : List Json)
  | obj (members : List (Text × Json))
  deriving Inhabited

namespace Json

def member? (members : List (Text × Json)) (name : Text) : Option Json :=
  Association.find? (· == name) members

/-- The value counts as nothing: null, false, zero, or a text, array or object without content. -/
def isVoid : Json → Bool
  | .null => true
  | .bool b => !b
  | .int i => i == 0
  | .float x => x.isZero
  | .str t => t.isEmpty
  | .arr items => items.isEmpty
  | .obj members => members.isEmpty

def given? (v : Json) : Option Json := if v.isVoid then none else some v

/-- The name under which messages mention the kind of a value. -/
def kind : Json → String
  | .null => "NoneType"
  | .bool _ => "bool"
  | .int _ => "int"
  | .float _ => "float"
  | .str _ => "str"
  | .arr _ => "list"
  | .obj _ => "dict"

def text? : Json → Option Text
  | .str t => some t
  | _ => none

def ofText? : Option Text → Json
  | some t => .str t
  | none => .null

def ofInt? : Option Int → Json
  | some i => .int i
  | none => .null

end Json

end ClusterStack
