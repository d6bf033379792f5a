import ClusterStack.Failure
import ClusterStack.Json.Writer
import ClusterStack.Text.Blank
import ClusterStack.Validation.Scalar
/-!
# Stack parameters

A stack is created and updated with a set of parameters. Each has a value of its own or takes over
the value that the stack has; on an update a parameter that is not in the set falls back to the
default of the template. A set is ordered by the first insertion of each key, and a key that is
inserted again keeps its place.
-/
namespace ClusterStack.Stack

inductive ParameterKey
  | size
  | zones
  | securityGroup
  | sourceCidr
  | port
  | subnets
  | vpc
  | instanceType
  | keyPair
  | cluster
  | image
  | publicAddress
  deriving DecidableEq, Repr

def ParameterKey.name : ParameterKey → String
  | .size => "AsgMaxSize"
  | .zones => "VpcAvailabilityZones"
  | .securityGroup => "SecurityGroup"
  | .sourceCidr => "SourceCidr"
  | .port => "EcsPort"
  | .subnets => "SubnetIds"
  | .vpc => "VpcId"
  | .instanceType => "EcsInstanceType"
  | .keyPair => "KeyName"
  | .cluster => "EcsCluster"
  | .image => "EcsAmiId"
  | .publicAddress => "AssociatePublicIpAddress"

/-- Every key, in the order in which an update submits them. -/
def ParameterKey.all : List ParameterKey :=
  [.size, .zones, .securityGroup, .sourceCidr, .port, .subnets, .vpc, .instanceType, .keyPair,
    .cluster, .image, .publicAddress]

/-- The keys without which a set is not submitted, in the order in which they are checked. -/
def ParameterKey.needed : List ParameterKey := [.keyPair, .cluster, .image]

structure Parameter where
  /-- The key, which no other parameter of a set has. -/
  key : String
  value : Option Text
  /-- The value that the stack has is kept. -/
  usePrevious : Bool
  deriving DecidableEq, Repr

namespace Parameter

def title : String := "StackParameter"

def check : Validation.Check Parameter :=
  Validation.object fun members =>
    Parameter.mk <$> Validation.required members ["key"] Validation.string
      <*> Validation.optional members ["value"] Validation.text
      <*> Validation.defaulted members ["use_previous_value"] false Validation.boolean

def isValid (p : Parameter) : Bool :=
  (match p.value with
    | some value => !value.isEmpty
    | none => false) || p.usePrevious

def toRequest (p : Parameter) : Json :=
  let key : Text × Json := ("ParameterKey", .str p.key)
  let flag : Text × Json := ("UsePreviousValue", .bool p.usePrevious)
  match p.value with
  | some value => .obj [key, ("ParameterValue", .str value), flag]
  | none => .obj [key, flag]

def literal (p : Parameter) : String :=
  let value := (p.value.map Text.quoted).getD "None"
  let flag := if p.usePrevious then "True" else "False"
  s!"StackParameter(key={Text.quoted p.key}, value={value}, use_previous_value={flag})"

end Parameter

/-- An ordered set of parameters with distinct keys. -/
@[ext]
structure Parameters where
  /-- The parameters, in the order of the first insertion of their keys. -/
  toList : List Parameter
  distinct : (toList.map Parameter.key).Nodup
  deriving DecidableEq, Repr

namespace Parameters

def empty : Parameters := ⟨[], List.nodup_nil⟩

/-- The parameters with one in the place of that of its key, or at the end if there is none. -/
def place (p : Parameter) : List Parameter → List Parameter
  | [] => [p]
  | q :: rest => if q.key == p.key then p :: rest else q :: place p rest

theorem mem_keys_place {p : Parameter} {items : List Parameter} {key : String} :
    key ∈ (place p items).map Parameter.key ↔ key = p.key ∨ key ∈ items.map Parameter.key := by
  induction items with
  | nil => simp [place]
  | cons q rest ih =>
    rw [place]
    split
    · rename_i same
      simp [beq_iff_eq.mp same]
    · rw [List.map_cons, List.mem_cons, ih, List.map_cons, List.mem_cons]
      exact or_left_comm

theorem nodup_keys_place (p : Parameter) {items : List Parameter}
    (distinct : (items.map Parameter.key).Nodup) : ((place p items).map Parameter.key).Nodup := by
  induction items with
  | nil => exact List.nodup_cons.mpr ⟨nofun, List.nodup_nil⟩
  | cons q rest ih =>
    rw [List.map_cons, List.nodup_cons] at distinct
    rw [place]
    split
    · rename_i same
      rw [List.map_cons, ← beq_iff_eq.mp same]
      exact List.nodup_cons.mpr distinct
    · rename_i other
      rw [List.map_cons, List.nodup_cons, mem_keys_place, not_or]
      exact ⟨⟨mt beq_iff_eq.mpr other, distinct.1⟩, ih distinct.2⟩

/-- The set in which the parameter is the one of its key. -/
def overwrite (set : Parameters) (p : Parameter) : Parameters :=
  ⟨place p set.toList, nodup_keys_place p set.distinct⟩

def store (set : Parameters) (key : String) (value usePrevious : Json) :
    Except Failure Parameters :=
  if Text.isAllBlank key then .error (.parameter key .blankKey)
  else
    let shape := Json.obj [("key", .str key), ("value", value), ("use_previous_value", usePrevious)]
    (readAs Parameter.title Parameter.check shape).map set.overwrite

/-- The set with a value under the key, which no longer keeps the value of the stack. -/
def add (set : Parameters) (key : String) (value : Json) : Except Failure Parameters :=
  set.store key value (.bool false)

/-- The set with no value of its own under the key, which keeps that of the stack if the flag says
so. -/
def addPrevious (set : Parameters) (key : String) (flag : Json) : Except Failure Parameters :=
  set.store key .null flag

def put (set : Parameters) (key : ParameterKey) (value : Text) : Parameters :=
  set.overwrite ⟨key.name, some value, false⟩

def keeping (keys : List String) : Except Failure Parameters :=
  keys.foldlM (fun set key => set.addPrevious key (.bool true)) empty

/-- The set in which every key of the template keeps the value of the stack, from which an update
starts. -/
def keepingAll : Parameters := ⟨ParameterKey.all.map fun key => ⟨key.name, none, true⟩, by decide⟩

def find? (set : Parameters) (key : String) : Option Parameter :=
  set.toList.find? (·.key == key)

def get (set : Parameters) (key : String) : Except Failure Parameter :=
  match set.find? key with
  | some p => .ok p
  | none => .error (.parameter key .notFound)

def has (set : Parameters) (key : ParameterKey) : Bool := (set.find? key.name).isSome

def contains (set : Parameters) (key : String) : Bool := (set.find? key).isSome

def size (set : Parameters) : Nat := set.toList.length

def keys (set : Parameters) : List String := set.toList.map Parameter.key

def checkParameter (p : Parameter) : Except Failure Unit :=
  if p.isValid then .ok () else .error (.parameter p.key .neitherValueNorPrevious)

/-- The needed keys are there and every parameter is valid. The needed ones are checked first, then
the others in order, and the first fault is reported. -/
def validate (set : Parameters) : Except Failure Unit := do
  for key in ParameterKey.needed do
    checkParameter (← set.get key.name)
  for p in set.toList do
    if !(ParameterKey.needed.map ParameterKey.name).contains p.key then checkParameter p

def toRequest (set : Parameters) : List Json := set.toList.map Parameter.toRequest

def requestText (set : Parameters) : String := (Json.arr set.toRequest).toText

def literal (set : Parameters) : String :=
  "ParameterSet([" ++ ", ".intercalate (set.toList.map Parameter.literal) ++ "])"

end Parameters

end ClusterStack.Stack
