import ClusterStack.Json.Basic
import ClusterStack.Number.Shortest
import ClusterStack.Text.Quoted
/-!
# Writing JSON

The text of a value in ASCII: `", "` between elements and `": "` after a member's name, the short
escapes where there is one, and `\uXXXX` with lower-case digits for every other character outside
the printable ASCII ones, as a surrogate pair where the character needs one. Half of a pair is
written by itself.
-/
namespace ClusterStack.Json

def escapeUnit (n : Nat) : List Char := '\\' :: 'u' :: Text.hexDigits 4 n

def escapeCharacter (c : Char) : List Char :=
  if c == '"' then ['\\', '"']
  else if c == '\\' then ['\\', '\\']
  else if c == '\n' then ['\\', 'n']
  else if c == '\r' then ['\\', 'r']
  else if c == '\t' then ['\\', 't']
  else if c == '\x0c' then ['\\', 'f']
  else if c == '\x08' then ['\\', 'b']
  else if ' ' ≤ c && c ≤ '~' then [c]
  else if c.toNat < 0x10000 then escapeUnit c.toNat
  else
    let n := c.toNat - 0x10000
    escapeUnit (0xD800 + n / 0x400) ++ escapeUnit (0xDC00 + n % 0x400)

def escapeCode : Text.Code → List Char
  | .char c => escapeCharacter c
  | half => escapeUnit half.value

def writeText (t : Text) : List Char := '"' :: t.codes.flatMap escapeCode ++ ['"']

/-- The text of a floating-point number, which JSON itself has no form of when it is not finite. -/
def writeFloat : Number.Binary64 → String
  | .nan => "NaN"
  | .infinite negative => if negative then "-Infinity" else "Infinity"
  | x => x.text

def joinParts : List (List Char) → List Char
  | [] => []
  | [part] => part
  | part :: rest => part ++ ',' :: ' ' :: joinParts rest

mutual

def write : Json → List Char
  | .null => "null".toList
  | .bool b => if b then "true".toList else "false".toList
  | .int i => (toString i).toList
  | .float x => (writeFloat x).toList
  | .str t => writeText t
  | .arr items => '[' :: joinParts (writeItems items) ++ [']']
  | .obj members => '{' :: joinParts (writeMembers members) ++ ['}']

def writeItems : List Json → List (List Char)
  | [] => []
  | v :: rest => v.write :: writeItems rest

def writeMembers : List (Text × Json) → List (List Char)
  | [] => []
  | (name, v) :: rest => (writeText name ++ ':' :: ' ' :: v.write) :: writeMembers rest

end

def toText (v : Json) : String := String.ofList v.write

end ClusterStack.Json
