import ClusterStack.Json.Scalar
import ClusterStack.Program
/-!
# Answers of unchecked shape

Some answers are used as they come, without a check of their shape beforehand. Each of these steps
takes a part of such an answer and fails where the part does not allow it, which is a failure that
nothing recovers from.
-/
namespace ClusterStack.Aws.Answer

def members : Json → Except Failure (List (Text × Json))
  | .obj members => .ok members
  | v => .error (.data (.noMembers v.kind))

def member (v : Json) (name : Text) : Except Failure Json :=
  (members v).map fun ms => (Json.member? ms name).getD .null

/-- What is listed: the elements of an array, the names of an object or the places of a text. -/
def elements : Json → Except Failure (List Json)
  | .arr items => .ok items
  | .obj members => .ok (members.map fun m => .str m.1)
  | .str t => .ok (t.codes.map fun code => .str (.singleton code))
  | v => .error (.data (.notListed v.kind))

/-- What is listed under a member of an answer, which is nothing where the member is void. -/
def elementsOf (answer : List (Text × Json)) (name : Text) : Except Failure (List Json) :=
  match (Json.member? answer name).bind Json.given? with
  | some v => elements v
  | none => .ok []

def first : Json → Except Failure Json
  | .arr (v :: _) => .ok v
  | .arr [] => .error (.data (.absent "0"))
  | .obj _ => .error (.data (.absent "0"))
  | .str t =>
    match t.codes with
    | code :: _ => .ok (.str (.singleton code))
    | [] => .error (.data (.absent "0"))
  | v => .error (.data (.notIndexed v.kind))

def required (v : Json) (name : String) : Except Failure Json :=
  match v with
  | .obj members =>
    match Json.member? members name with
    | some part => .ok part
    | none => .error (.data (.absent name))
  | .arr _ => .error (.data .listNeedsNumber)
  | .str _ => .error (.data .textNeedsNumber)
  | v => .error (.data (.notIndexed v.kind))

def key (v : Json) : Except Failure Json :=
  match v.key? with
  | some _ => .ok v
  | none => .error (.data (.notAKey v.kind))

/-- The entries with a value stored under a key. A key keeps its place. -/
def store (k value : Json) (entries : List (Json × Json)) : Except Failure (List (Json × Json)) :=
  (key k).map fun k => Association.insertBy Json.sameKey k value entries

def lookup? (k : Json) (entries : List (Json × Json)) : Option Json :=
  Association.find? (Json.sameKey · k) entries

end ClusterStack.Aws.Answer
