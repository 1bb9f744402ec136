/-!
# Commands and their arguments

The command line of a program is described by data: the commands, the options that each of them
takes, and the arguments without a name.  Reading a command line, the help texts and the complaints
about wrong usage all follow this description.
-/

namespace SyntaxKit

namespace CommandLine

/-- What the value of an argument has to be. -/
inductive ValueKind where
  | text
  /-- A path, which may not be empty. -/
  | path
  | number
deriving DecidableEq, Repr

/-- An option: a switch, or a name with a value. -/
structure OptionSpec where
  long : String
  short : Option Char := none
  /-- What the value is called in help texts; a switch has none. -/
  valueName : Option String := none
  kind : ValueKind := .text
  help : String
  default : Option String := none
  /-- The environment variable that gives the value if the option does not. -/
  variableName : Option String := none
deriving DecidableEq, Repr

/-- An argument without a name. -/
structure PositionalSpec where
  name : String
  required : Bool := true
  /-- Whether it may be given more than once. -/
  many : Bool := false
  kind : ValueKind := .path
  help : String := ""
deriving DecidableEq, Repr

/-- A command.  Its options are listed in the order of the help text. -/
structure CommandSpec where
  name : String
  about : String
  options : List OptionSpec
  positionals : List PositionalSpec
deriving DecidableEq, Repr

/-- A program with its commands. -/
structure ProgramSpec where
  name : String
  version : String
  about : String
  options : List OptionSpec
  commands : List CommandSpec
deriving DecidableEq, Repr

/-- The switch that asks for help. -/
def helpSwitch : OptionSpec := { long := "help", short := some 'h', help := "Print help" }

/-- The switch that asks for the version. -/
def versionSwitch : OptionSpec :=
  { long := "version", short := some 'V', help := "Print version" }

/-- The command that shows the help of other commands. -/
def helpCommand : String := "help"

/-- What the help command does. -/
def helpCommandAbout : String := "Print this message or the help of the given subcommand(s)"

namespace OptionSpec

/-- An option as it is named in messages. -/
def shown (o : OptionSpec) : String :=
  "--" ++ o.long
    ++ match o.valueName with
      | some name => " <" ++ name ++ ">"
      | none => ""

end OptionSpec

namespace PositionalSpec

/-- A positional argument as it is named in messages. -/
def shown (p : PositionalSpec) : String :=
  (if p.required then "<" ++ p.name ++ ">" else "[" ++ p.name ++ "]")
    ++ if p.many then "..." else ""

end PositionalSpec

/-- The commands of a program by name, with the help command. -/
def ProgramSpec.commandNames (p : ProgramSpec) : List String :=
  p.commands.map CommandSpec.name ++ [helpCommand]

/-- The command with a name. -/
def ProgramSpec.command? (p : ProgramSpec) (name : String) : Option CommandSpec :=
  p.commands.find? fun c => c.name == name

end CommandLine

end SyntaxKit
