/-!
# Validation reports

Data from outside is checked against the shape that is expected of it. Every departure is an issue
with its place in the data, and the issues of one check make up a report, in the order in which the
parts of the shape are declared.
-/
namespace ClusterStack.Validation

inductive Segment
  | member (name : String)
  | item (index : Nat)
  deriving DecidableEq, Repr

inductive Problem
  | missing
  | notAnObject
  | notAMap
  | notAList
  | notAText
  | notUnicode
  | notAnInteger
  | unreadableInteger
  | overlongInteger
  | fractionalInteger
  | infiniteInteger
  | notABoolean
  | unreadableBoolean
  | notATime
  | unreadableTime
  | timeOutOfRange
  | rule (statement : String)
  deriving DecidableEq, Repr

def Problem.code : Problem → String
  | .missing => "missing"
  | .notAnObject => "model_type"
  | .notAMap => "dict_type"
  | .notAList => "list_type"
  | .notAText => "string_type"
  | .notUnicode => "string_unicode"
  | .notAnInteger => "int_type"
  | .unreadableInteger => "int_parsing"
  | .overlongInteger => "int_parsing_size"
  | .fractionalInteger => "int_from_float"
  | .infiniteInteger => "finite_number"
  | .notABoolean => "bool_type"
  | .unreadableBoolean => "bool_parsing"
  | .notATime => "datetime_type"
  | .unreadableTime => "datetime_from_date_parsing"
  | .timeOutOfRange => "datetime_parsing"
  | .rule _ => "value_error"

structure Issue where
  path : List Segment
  problem : Problem
  deriving DecidableEq, Repr

def Issue.under (segment : Segment) (issue : Issue) : Issue :=
  { issue with path := segment :: issue.path }

structure Report where
  title : String
  /-- The departures from it; a report has at least one. -/
  issues : List Issue
  deriving DecidableEq, Repr

def Segment.text : Segment → String
  | .member name => name
  | .item index => toString index

def Problem.line (p : Problem) : String :=
  match p with
  | .rule statement => s!"  Value error, {statement} [type={p.code}]"
  | _ => s!"  [type={p.code}]"

/-- The lines of one issue. An issue at the root has no line for its place. -/
def Issue.lines (issue : Issue) : List String :=
  match issue.path with
  | [] => [issue.problem.line]
  | path => [".".intercalate (path.map Segment.text), issue.problem.line]

/-- The text of a report: a line that counts the issues, and the lines of each. -/
def Report.message (r : Report) : String :=
  let count := r.issues.length
  let errors := if count == 1 then "error" else "errors"
  "\n".intercalate (s!"{count} validation {errors} for {r.title}" :: r.issues.flatMap Issue.lines)

end ClusterStack.Validation
