import SyntaxKit.CommandLine.Command

/-!
# Help texts and complaints

The help text of a command says what it is for, how it is called, and what its arguments mean.  A
complaint says what is wrong with a command line, gives tips, and shows the usage.
-/

namespace SyntaxKit

namespace CommandLine

/-! ## Usage -/

/-- How a program is called. -/
def ProgramSpec.usage (p : ProgramSpec) : String := p.name ++ " [OPTIONS] <COMMAND>"

/-- How a command is called. -/
def CommandSpec.usage (c : CommandSpec) (program : String) : String :=
  " ".intercalate (program :: c.name :: "[OPTIONS]" :: c.positionals.map PositionalSpec.shown)

/-- How a command is called with the arguments that were used, if there were any; the arguments that
are required are always shown. -/
def CommandSpec.usageWith (c : CommandSpec) (program : String) (options : List OptionSpec)
    (positionalUsed : Bool) : String :=
  if options.isEmpty && !positionalUsed then c.usage program
  else
    let shown := c.positionals.filter fun p => p.required || positionalUsed
    " ".intercalate (program :: c.name :: options.map OptionSpec.shown
      ++ shown.map fun p => PositionalSpec.shown { p with required := true })

/-! ## Help -/

/-- The columns of a help text. -/
def helpColumns : Nat := 100

/-- An entry of a list in a help text: what is explained, and the explanation. -/
structure HelpEntry where
  term : String
  help : String

/-- An option with its short form, as a help text lists it. -/
def OptionSpec.term (o : OptionSpec) : String :=
  (match o.short with
    | some c => "-" ++ String.ofList [c] ++ ", "
    | none => "    ") ++ o.shown

/-- The explanation of an option, with the variable and the default that may give its value. -/
def OptionSpec.explained (o : OptionSpec) (environment : String → Option String) : String :=
  let variableNote :=
    match o.variableName with
    | some name => [" [env: " ++ name ++ "=" ++ (environment name).getD "" ++ "]"]
    | none => []
  let defaultNote :=
    match o.default with
    | some text => [" [default: " ++ text ++ "]"]
    | none => []
  o.help ++ String.join (variableNote ++ defaultNote)

/-- Whether an explanation gets a line of its own: the terms take much of the room, and it does not
fit into the rest. -/
def needsOwnLine (longest : Nat) (help : String) : Bool :=
  let taken := longest + 12
  taken ≤ helpColumns && 40 * helpColumns < 100 * taken && helpColumns - taken < help.length

/-- A text filled up with spaces. -/
def filled (s : String) (width : Nat) : String :=
  s ++ String.ofList (List.replicate (width - s.length) ' ')

/-- A list of entries: explanations stand beside their terms, or all below them if one does not fit.
`indent` is the part of the terms that does not count as taken room. -/
def helpList (entries : List HelpEntry) (indent : Nat) : String :=
  let longest := (entries.map fun e => e.term.length).foldl max 0
  let below := entries.any fun e => needsOwnLine (longest - indent) e.help
  String.join (entries.map fun e =>
    if below then "  " ++ e.term ++ "\n          " ++ e.help ++ "\n"
    else "  " ++ filled e.term longest ++ "  " ++ e.help ++ "\n")

/-- A titled part of a help text, unless there is nothing in it. -/
def helpSection (title : String) (entries : List HelpEntry) (indent : Nat) : String :=
  if entries.isEmpty then "" else "\n" ++ title ++ ":\n" ++ helpList entries indent

/-- How much of a listed option its short form takes. -/
def shortWidth : Nat := 4

/-- The part of a help text about options. -/
def optionsSection (options : List OptionSpec) (environment : String → Option String) : String :=
  helpSection "Options" (options.map fun o => ⟨o.term, o.explained environment⟩) shortWidth

/-- The help text of a program. -/
def ProgramSpec.helpText (p : ProgramSpec) (environment : String → Option String) : String :=
  let commands := p.commands.map (fun c => HelpEntry.mk c.name c.about)
    ++ [⟨helpCommand, helpCommandAbout⟩]
  p.about ++ "\n\nUsage: " ++ p.usage ++ "\n" ++ helpSection "Commands" commands 0
    ++ optionsSection (p.options ++ [helpSwitch, versionSwitch]) environment

/-- The help text of a command. -/
def CommandSpec.helpText (c : CommandSpec) (program : String)
    (environment : String → Option String) : String :=
  c.about ++ "\n\nUsage: " ++ c.usage program ++ "\n"
    ++ helpSection "Arguments" (c.positionals.map fun p => ⟨p.shown, p.help⟩) 0
    ++ optionsSection (c.options ++ [helpSwitch]) environment

/-- The help text of the help command. -/
def helpCommandText (program : String) : String :=
  helpCommandAbout ++ "\n\nUsage: " ++ program ++ " " ++ helpCommand ++ " [COMMAND]...\n"
    ++ helpSection "Arguments" [⟨"[COMMAND]...", "Print help for the subcommand(s)"⟩] 0

/-! ## Complaints -/

/-- What is wrong with a command line. -/
inductive Fault where
  | missingValue (argument : String)
  | invalidValue (value argument reason : String)
  | needlessValue (value option : String)
  | repeatedOption (argument : String)
  | unexpected (argument : String)
  | missing (arguments : List String)
  | unknownCommand (name : String)
  | noCommand (program : String) (commands : List String)
deriving DecidableEq, Repr

/-- What might help. -/
inductive Tip where
  | similarCommands (names : List String)
  | similarOption (option : String)
  | asValue (argument : String)
  | optionOfCommand (command option : String)
  | needlessDashes (command : String)
deriving DecidableEq, Repr

/-- A complaint about a command line. -/
structure Complaint where
  fault : Fault
  tips : List Tip := []
  usage : Option String := none
deriving DecidableEq, Repr

/-- A text in single quotes. -/
def quoted (s : String) : String := "'" ++ s ++ "'"

/-- What a complaint says is wrong. -/
def Fault.message : Fault → String
  | .missingValue argument =>
    "a value is required for " ++ quoted argument ++ " but none was supplied"
  | .invalidValue value argument reason =>
    "invalid value " ++ quoted value ++ " for " ++ quoted argument ++ ": " ++ reason
  | .needlessValue value option =>
    "unexpected value " ++ quoted value ++ " for " ++ quoted option
      ++ " found; no more were expected"
  | .repeatedOption argument =>
    "the argument " ++ quoted argument ++ " cannot be used multiple times"
  | .unexpected argument => "unexpected argument " ++ quoted argument ++ " found"
  | .missing arguments =>
    "the following required arguments were not provided:"
      ++ String.join (arguments.map ("\n  " ++ ·))
  | .unknownCommand name => "unrecognized subcommand " ++ quoted name
  | .noCommand program commands =>
    quoted program ++ " requires a subcommand but one was not provided\n  [subcommands: "
      ++ ", ".intercalate commands ++ "]"

/-- What a tip says. -/
def Tip.message : Tip → String
  | .similarCommands [name] => "a similar subcommand exists: " ++ quoted name
  | .similarCommands names =>
    "some similar subcommands exist: " ++ ", ".intercalate (names.map quoted)
  | .similarOption option => "a similar argument exists: " ++ quoted option
  | .asValue argument =>
    "to pass " ++ quoted argument ++ " as a value, use " ++ quoted ("-- " ++ argument)
  | .optionOfCommand command option => quoted (command ++ " " ++ option) ++ " exists"
  | .needlessDashes command =>
    "subcommand " ++ quoted command ++ " exists; to use it, remove the '--' before it"

/-- The text of a complaint. -/
def Complaint.text (c : Complaint) : String :=
  "error: " ++ c.fault.message
    ++ (if c.tips.isEmpty then "" else "\n")
    ++ String.join (c.tips.map fun t => "\n  tip: " ++ t.message)
    ++ (match c.usage with
      | some usage => "\n\nUsage: " ++ usage
      | none => "")
    ++ "\n\nFor more information, try '--help'.\n"

end CommandLine

end SyntaxKit
