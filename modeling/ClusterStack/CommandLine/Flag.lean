import ClusterStack.Text.DecimalDigit
import ClusterStack.Text.Quoted
/-!
# Options of a command line

An option is spelt out with two dashes, or abbreviated to the beginning of its name as long as no
other option begins so. Its value follows as the next argument or after an equals sign. How an
argument is understood depends on its spelling alone: an argument that begins with a dash is an
option, unless it is the dash itself, a negative number or, where no option fits, holds a space.
-/
namespace ClusterStack.CommandLine

structure Flag where
  /-- The spellings of the option, the longest one last. -/
  names : List String
  takesValue : Bool
  help : String
  deriving DecidableEq, Repr

def Flag.valued (name help : String) : Flag := ⟨[name], true, help⟩

def Flag.switch (name help : String) : Flag := ⟨[name], false, help⟩

def Flag.forHelp : Flag := ⟨["-h", "--help"], false, "show this help message and exit"⟩

def Flag.key (flag : Flag) : String := flag.names.getLastD ""

/-- The option as a member of data: without the leading dashes, and with underscores for the
others. -/
def Flag.member (flag : Flag) : String :=
  String.ofList ((flag.key.toList.dropWhile (· == '-')).map fun c => if c == '-' then '_' else c)

def Flag.label (flag : Flag) : String := "/".intercalate flag.names

inductive Misuse
  | valueMissing (label : String)
  | valueIgnored (label value : String)
  | ambiguous (argument : String) (matching : List String)
  | unknownCommand (name : String) (known : List String)
  | commandMissing
  | unrecognized (arguments : List String)
  deriving DecidableEq, Repr

def Misuse.message : Misuse → String
  | .valueMissing label => s!"argument {label}: expected one argument"
  | .valueIgnored label value =>
    s!"argument {label}: ignored explicit argument {Text.quoted value}"
  | .ambiguous argument matching =>
    s!"ambiguous option: {argument} could match " ++ ", ".intercalate matching
  | .unknownCommand name known =>
    s!"argument command: invalid choice: {Text.quoted name} (choose from " ++
      ", ".intercalate (known.map fun (choice : String) => Text.quoted choice) ++ ")"
  | .commandMissing => "the following arguments are required: command"
  | .unrecognized arguments => "unrecognized arguments: " ++ " ".intercalate arguments

/-- How an argument is understood. What is attached to an option follows its name in the same
argument. -/
inductive Mark
  | plain
  | separator
  | unknownFlag
  | flag (flag : Flag) (name : String) (attached : Option String)
  deriving DecidableEq, Repr

def spellings (flags : List Flag) : List (Flag × String) :=
  flags.flatMap fun flag => flag.names.map (flag, ·)

def findFlag? (flags : List Flag) (name : String) : Option Flag :=
  ((spellings flags).find? (·.2 == name)).map Prod.fst

def splitAtEquals (argument : String) : String × Option String :=
  let cs := argument.toList
  match cs.dropWhile (· != '=') with
  | [] => (argument, none)
  | _ :: value => (String.ofList (cs.takeWhile (· != '=')), some (String.ofList value))

/-- The options that an argument may stand for when it is not spelt exactly as one: those whose
names begin with a long one, and the one whose short name is followed by something else. -/
def candidates (flags : List Flag) (argument : String) :
    List (Flag × String × Option String) :=
  if "--".toList.isPrefixOf argument.toList then
    let (start, value) := splitAtEquals argument
    ((spellings flags).filter fun (_, name) => start.toList.isPrefixOf name.toList).map
      fun (flag, name) => (flag, name, value)
  else
    let short := String.ofList (argument.toList.take 2)
    let rest := String.ofList (argument.toList.drop 2)
    ((spellings flags).filter fun (_, name) => name == short).map
      fun (flag, name) => (flag, name, some rest)

/-- A decimal number after a dash, with or without a point. A line feed may follow. -/
def isNegativeNumber (argument : String) : Bool :=
  match argument.toList with
  | '-' :: cs =>
    let cs := if cs.getLast? == some '\n' then cs.dropLast else cs
    match cs.dropWhile Text.isDecimalDigit with
    | [] => !cs.isEmpty
    | '.' :: fraction => !fraction.isEmpty && fraction.all Text.isDecimalDigit
    | _ => false
  | _ => false

def markDashed (flags : List Flag) (argument : String) : Except Misuse Mark :=
  let exact := (findFlag? flags argument).map fun flag => Mark.flag flag argument none
  let valued :=
    match splitAtEquals argument with
    | (name, some value) =>
      (findFlag? flags name).map fun flag => Mark.flag flag name (some value)
    | (_, none) => none
  match exact.or valued with
  | some mark => .ok mark
  | none =>
    match candidates flags argument with
    | [(flag, name, attached)] => .ok (.flag flag name attached)
    | [] =>
      if isNegativeNumber argument || argument.toList.contains ' ' then .ok .plain
      else .ok .unknownFlag
    | several => .error (.ambiguous argument (several.map fun (_, name, _) => name))

def mark (flags : List Flag) (argument : String) : Except Misuse Mark :=
  match argument.toList with
  | '-' :: _ :: _ => markDashed flags argument
  | _ => .ok .plain

/-- How each argument is understood. Two dashes separate; all that follows them is plain. -/
def markAll (flags : List Flag) : List String → Except Misuse (List (String × Mark))
  | [] => .ok []
  | argument :: rest =>
    if argument == "--" then .ok ((argument, .separator) :: rest.map (·, .plain))
    else do
      let first ← mark flags argument
      let others ← markAll flags rest
      pure ((argument, first) :: others)

end ClusterStack.CommandLine
