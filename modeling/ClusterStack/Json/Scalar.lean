import ClusterStack.Json.Basic
/-!
# Scalars as keys

A scalar can stand as the key of a map and as the member of a set: two texts are one key when they
are equal, and so are two numbers of equal value, truth values counting as zero and one. Arrays and
objects cannot. Keys of one sort are ordered: texts by code point, numbers by value.
-/
namespace ClusterStack.Json

/-- What makes two scalars one key. -/
inductive Key
  | null
  | text (t : Text)
  | number (numerator : Int) (denominator : Nat)
  | irregular (x : Number.Binary64)
  deriving DecidableEq

def Key.ofRatio (n : Int) (d : Nat) : Key :=
  let g := Nat.gcd n.natAbs d
  .number (n / g) (d / g)

def key? : Json → Option Key
  | .null => some .null
  | .bool b => some (.number (if b then 1 else 0) 1)
  | .int i => some (.number i 1)
  | .float x =>
    match x.ratio? with
    | some (n, d) => some (Key.ofRatio n d)
    | none => some (.irregular x)
  | .str t => some (.text t)
  | .arr _ => none
  | .obj _ => none

def sameKey (a b : Json) : Bool :=
  match a.key?, b.key? with
  | some k, some l => k == l
  | _, _ => false

/-- The first key does not come after the second. There is no order between texts and numbers. -/
def Key.le? : Key → Key → Option Bool
  | .text s, .text t => some (s.le t)
  | .number n d, .number n' d' => some (decide (n * d' ≤ n' * d))
  | .number _ _, .irregular (.infinite negative) => some (!negative)
  | .irregular (.infinite negative), .number _ _ => some negative
  | .irregular x, .irregular y => some (x == y || x == .infinite true)
  | .number _ _, .irregular _ => some true
  | .irregular _, .number _ _ => some true
  | _, _ => none

/-- The values without those that are the same key as an earlier one. -/
def distinct (values : List Json) : List Json :=
  values.foldl (fun kept v => if kept.any (sameKey · v) then kept else kept ++ [v]) []

def comparable (values : List Json) : Bool :=
  values.all fun a => values.all fun b =>
    match a.key?, b.key? with
    | some k, some l => (k.le? l).isSome
    | _, _ => false

/-- The values in ascending order, where every two of them can be ordered. A single value is in
order whatever it is. -/
def sort? (values : List Json) : Option (List Json) :=
  if values.length ≤ 1 then some values
  else if comparable values then
    some (values.mergeSort fun a b =>
      match a.key?, b.key? with
      | some k, some l => (k.le? l).getD true
      | _, _ => true)
  else none

end ClusterStack.Json
