import ClusterStack.CommandLine.Request
/-!
# Help

The usage lines of the program and of its commands, and the help texts below them. A misuse is
answered with the usage line and what is wrong.
-/
namespace ClusterStack.CommandLine

def Flag.placeholder (flag : Flag) : String := flag.member.map Char.toUpper

def Flag.written (flag : Flag) (name : String) : String :=
  if flag.takesValue then s!"{name} {flag.placeholder}" else name

def Flag.usage (flag : Flag) : String := "[" ++ flag.written (flag.names.headD "") ++ "]"

def Flag.helpLine (flag : Flag) : String :=
  "  " ++ ", ".intercalate (flag.names.map flag.written) ++ "  " ++ flag.help

def alternatives : String := "\x7b" ++ ",".intercalate Command.names ++ "\x7d"

def invokedAs : Option Command → String
  | none => programName
  | some command => s!"{programName} {command.name}"

/-- The options of the program, or of a command of it. -/
def flagsOf : Option Command → List Flag
  | none => generalFlags
  | some command => command.flags

def usage (command : Option Command) : String :=
  let arguments := (flagsOf command).map Flag.usage ++
    (if command.isNone then [alternatives, "..."] else [])
  "usage: " ++ " ".intercalate (invokedAs command :: arguments)

def overview : List String :=
  ["Create, scale and delete ECS clusters backed by CloudFormation.", "", "positional arguments:",
    "  " ++ alternatives] ++
    Command.all.map (fun command => s!"    {command.name}  {command.help}") ++ [""]

def helpLines (command : Option Command) : List String :=
  [usage command, ""] ++ (if command.isNone then overview else []) ++ "options:" ::
    (flagsOf command).map Flag.helpLine

def helpText (command : Option Command) : String := "\n".intercalate (helpLines command) ++ "\n"

def misuseText (command : Option Command) (misuse : Misuse) : String :=
  s!"{usage command}\n{invokedAs command}: error: {misuse.message}\n"

end ClusterStack.CommandLine
