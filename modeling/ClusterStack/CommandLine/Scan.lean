import ClusterStack.Association
import ClusterStack.CommandLine.Flag
import ClusterStack.Json.Basic
/-!
# Reading the arguments of a command line

The arguments are first marked by their spelling and then taken from left to right. Where a command
is expected, the first plain argument names it and all that follows is left to the command.
Arguments that have no place are collected. What was read of the options of a command can be had as
data, to be checked like data from elsewhere.
-/
namespace ClusterStack.CommandLine

structure Scan where
  /-- The options that are followed by a value, in order. The value may have been taken away. -/
  values : List (String × Option String)
  switches : List String
  unrecognized : List String
  command : Option (String × List String)
  deriving DecidableEq, Repr

inductive Interruption
  | help
  | misuse (misuse : Misuse)
  deriving DecidableEq, Repr

namespace Scan

def empty : Scan := ⟨[], [], [], none⟩

def value? (scan : Scan) (key : String) : Option (Option String) :=
  Association.find? (· == key) scan.values.reverse

def has (scan : Scan) (key : String) : Bool := scan.switches.contains key

def withUnrecognized (scan : Scan) (argument : String) : Scan :=
  { scan with unrecognized := scan.unrecognized ++ [argument] }

def withValue (scan : Scan) (flag : Flag) (value : Option String) : Scan :=
  { scan with values := scan.values ++ [(flag.key, value)] }

def withSwitch (scan : Scan) (flag : Flag) : Scan :=
  { scan with switches := scan.switches ++ [flag.key] }

def withCommand (scan : Scan) (name : String) (rest : List (String × Mark)) : Scan :=
  { scan with command := some (name, rest.map Prod.fst) }

/-- What is said of an option. A value that was taken away leaves an empty list behind. -/
def datum (scan : Scan) (flag : Flag) : Json :=
  if flag.takesValue then
    match scan.value? flag.key with
    | none => .null
    | some none => .arr []
    | some (some value) => .str value
  else .bool (scan.has flag.key)

def data (scan : Scan) (flags : List Flag) : Json :=
  .obj (flags.map fun flag => (flag.member, scan.datum flag))

end Scan

/-- The value that is attached to an option. Two dashes are taken away, as if they were there to
separate arguments. -/
def attachedValue? (attached : String) : Option String :=
  if attached == "--" then none else some attached

def ignored (value : List Char) : Interruption :=
  .misuse (.valueIgnored Flag.forHelp.label (String.ofList value))

/-- What comes of the short name of the help option with other characters after it. Each of them is
a further short name, and the help option is the only one that has a short name. An equals sign in
front of the characters has been taken off and leaves no trace. -/
def afterShortHelp : List Char → Interruption
  | [] => ignored []
  | ['h'] => .help
  | 'h' :: rest => afterShortHelp rest
  | cs => ignored cs

def takeSwitch (scan : Scan) (flag : Flag) (name : String) (attached : Option String) :
    Except Interruption Scan :=
  match attached with
  | some attached =>
    if name == "-h" then .error (afterShortHelp attached.toList)
    else .error (.misuse (.valueIgnored flag.label attached))
  | none => if flag == Flag.forHelp then .error .help else .ok (scan.withSwitch flag)

def take (expectsCommand : Bool) (scan : Scan) : List (String × Mark) → Except Interruption Scan
  | [] => .ok scan
  | (argument, .plain) :: rest =>
    if expectsCommand then .ok (scan.withCommand argument rest)
    else take expectsCommand (scan.withUnrecognized argument) rest
  | (argument, .separator) :: rest =>
    if expectsCommand && !rest.isEmpty then .ok (scan.withCommand argument rest)
    else take expectsCommand (scan.withUnrecognized argument) rest
  | (argument, .unknownFlag) :: rest =>
    take expectsCommand (scan.withUnrecognized argument) rest
  | (_, .flag flag name attached) :: rest =>
    if flag.takesValue then
      match attached, rest with
      | some attached, rest =>
        take expectsCommand (scan.withValue flag (attachedValue? attached)) rest
      | none, (value, .plain) :: rest => take expectsCommand (scan.withValue flag (some value)) rest
      | none, _ => .error (.misuse (.valueMissing flag.label))
    else
      match takeSwitch scan flag name attached with
      | .ok scan => take expectsCommand scan rest
      | .error interruption => .error interruption

def scanArguments (flags : List Flag) (expectsCommand : Bool) (arguments : List String) :
    Except Interruption Scan :=
  match markAll flags arguments with
  | .ok marked => take expectsCommand .empty marked
  | .error misuse => .error (.misuse misuse)

end ClusterStack.CommandLine
