/-!
# Association lists in insertion order

A key keeps the place of its first insertion. Inserting it again replaces its value there.
-/
namespace ClusterStack.Association

variable {κ ν : Type}

/-- The list with `value` stored under `key`, where `same` tells which keys are one. -/
def insertBy (same : κ → κ → Bool) (key : κ) (value : ν) : List (κ × ν) → List (κ × ν)
  | [] => [(key, value)]
  | (k, v) :: rest =>
    if same k key then (k, value) :: rest else (k, v) :: insertBy same key value rest

def insert [BEq κ] (key : κ) (value : ν) (entries : List (κ × ν)) : List (κ × ν) :=
  insertBy (· == ·) key value entries

def ofList [BEq κ] (pairs : List (κ × ν)) : List (κ × ν) :=
  pairs.foldl (fun entries p => insert p.1 p.2 entries) []

/-- The value under the first key that `wanted` accepts. -/
def find? (wanted : κ → Bool) : List (κ × ν) → Option ν
  | [] => none
  | (k, v) :: rest => if wanted k then some v else find? wanted rest

end ClusterStack.Association
