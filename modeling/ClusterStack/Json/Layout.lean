import ClusterStack.Json.Writer
/-!
# JSON texts in lines

A value is laid out for readers: it stands on one line if the line has room for it and no object
within it has more than one member. Otherwise its parts stand on lines of their own, two spaces
further in.
-/
namespace ClusterStack.Json

mutual

/-- No object within the value has more than one member. -/
def isSlim : Json → Bool
  | .arr items => itemsSlim items
  | .obj members => members.length ≤ 1 && membersSlim members
  | _ => true

def itemsSlim : List Json → Bool
  | [] => true
  | v :: rest => v.isSlim && itemsSlim rest

def membersSlim : List (Text × Json) → Bool
  | [] => true
  | (_, v) :: rest => v.isSlim && membersSlim rest

end

/-- The value can stand on one line that is filled up to `column` and has `after` characters to
follow. -/
def fits (width column after : Nat) (v : Json) : Bool :=
  v.isSlim && column + v.write.length + after ≤ width

def margin (indent : Nat) : List Char := List.replicate indent ' '

def enclose (opening closing : Char) (indent : Nat) (parts : List (List Char)) : List Char :=
  opening :: '\n' :: [',', '\n'].intercalate parts ++ '\n' :: margin indent ++ [closing]

/-- The characters that follow a part on its line: a comma unless it is the last one. -/
def commaAfter {α : Type} (rest : List α) : Nat := if rest.isEmpty then 0 else 1

mutual

/-- The characters of a value, the first of which stands in `column` of a line that is indented by
`indent`, with `after` characters to follow on its last line. -/
def layOut (width indent column after : Nat) : Json → List Char
  | .arr items =>
    if fits width column after (.arr items) then write (.arr items)
    else enclose '[' ']' indent (layOutItems width (indent + 2) items)
  | .obj members =>
    if fits width column after (.obj members) then write (.obj members)
    else enclose '{' '}' indent (layOutMembers width (indent + 2) members)
  | v => v.write

def layOutItems (width indent : Nat) : List Json → List (List Char)
  | [] => []
  | v :: rest =>
    (margin indent ++ v.layOut width indent indent (commaAfter rest)) ::
      layOutItems width indent rest

def layOutMembers (width indent : Nat) : List (Text × Json) → List (List Char)
  | [] => []
  | (name, v) :: rest =>
    let start := margin indent ++ writeText name ++ [':', ' ']
    (start ++ v.layOut width indent start.length (commaAfter rest)) ::
      layOutMembers width indent rest

end

/-- The text of a value in lines of at most the given width, as far as its parts can be divided. -/
def inLines (width : Nat) (v : Json) : String := String.ofList (v.layOut width 0 0 0)

end ClusterStack.Json
