import ClusterStack.Json.Basic
import ClusterStack.Validation.Report
/-!
# Checking data

A check gives the value that the data stands for, or all issues found. Checks of several parts are
combined so that the issues of every part are reported, not only those of the first one.
-/
namespace ClusterStack.Validation

inductive Checked (α : Type)
  | valid (a : α)
  | invalid (issues : List Issue)

abbrev Check (α : Type) := Json → Checked α

namespace Checked

variable {α β : Type}

def problem (p : Problem) : Checked α := .invalid [⟨[], p⟩]

def map (f : α → β) : Checked α → Checked β
  | .valid a => .valid (f a)
  | .invalid issues => .invalid issues

/-- The outcome of two checks, with the issues of both. -/
def both : Checked (α → β) → Checked α → Checked β
  | .valid f, .valid a => .valid (f a)
  | .valid _, .invalid issues => .invalid issues
  | .invalid issues, .valid _ => .invalid issues
  | .invalid issues, .invalid more => .invalid (issues ++ more)

instance : Applicative Checked where
  pure := .valid
  map := map
  seq f a := both f (a ())

def under (segment : Segment) : Checked α → Checked α
  | .valid a => .valid a
  | .invalid issues => .invalid (issues.map (Issue.under segment))

/-- A rule that applies only to a value without issues. -/
def ensuring (rule : α → Option Problem) : Checked α → Checked α
  | .valid a =>
    match rule a with
    | none => .valid a
    | some p => problem p
  | .invalid issues => .invalid issues

def titled (title : String) : Checked α → Except Report α
  | .valid a => .ok a
  | .invalid issues => .error ⟨title, issues⟩

end Checked

section
variable {α : Type}

/-- An object of which some members are checked; other members are ignored. -/
def object (body : List (Text × Json) → Checked α) : Check α
  | .obj members => body members
  | _ => .problem .notAnObject

/-- The first of the given names under which the object has a member, with that member. -/
def firstMember? (members : List (Text × Json)) : List String → Option (String × Json)
  | [] => none
  | name :: names =>
    match Json.member? members name with
    | some v => some (name, v)
    | none => firstMember? members names

/-- A member that has to be there. It may go by any of the names, the first one preferred. -/
def required (members : List (Text × Json)) (names : List String) (check : Check α) : Checked α :=
  match firstMember? members names with
  | some (name, v) => (check v).under (.member name)
  | none => (Checked.problem .missing).under (.member (names.headD ""))

/-- A member that has a value of its own when it is not there. -/
def defaulted (members : List (Text × Json)) (names : List String) (value : α) (check : Check α) :
    Checked α :=
  match firstMember? members names with
  | some (name, v) => (check v).under (.member name)
  | none => .valid value

def nullable (check : Check α) : Check (Option α)
  | .null => .valid none
  | v => (check v).map some

def optional (members : List (Text × Json)) (names : List String) (check : Check α) :
    Checked (Option α) :=
  defaulted members names none (nullable check)

def listFrom (check : Check α) : Nat → List Json → Checked (List α)
  | _, [] => .valid []
  | i, v :: rest => ((check v).under (.item i) |>.map List.cons).both (listFrom check (i + 1) rest)

def list (check : Check α) : Check (List α)
  | .arr items => listFrom check 0 items
  | _ => .problem .notAList

end

end ClusterStack.Validation
