import ClusterStack.Json.Basic
import ClusterStack.Number.Shortest
import ClusterStack.Text.Quoted
/-!
# JSON values in messages

How a value that is not a text appears in a log line or a message. A text stands as it is, but is
quoted inside an array or an object.
-/
namespace ClusterStack.Json

mutual

def literal : Json → String
  | .null => "None"
  | .bool b => if b then "True" else "False"
  | .int i => toString i
  | .float x => x.text
  | .str t => t.quoted
  | .arr items => "[" ++ ", ".intercalate (literals items) ++ "]"
  | .obj members => "\x7b" ++ ", ".intercalate (memberLiterals members) ++ "\x7d"

def literals : List Json → List String
  | [] => []
  | v :: rest => v.literal :: literals rest

def memberLiterals : List (Text × Json) → List String
  | [] => []
  | (name, v) :: rest => (name.quoted ++ ": " ++ v.literal) :: memberLiterals rest

end

/-- The text of the value: a text is its own, and any other value has one with every text in it
quoted. -/
def asText : Json → Text
  | .str t => t
  | v => v.literal

def display (v : Json) : String := v.asText.toString

end ClusterStack.Json
