import SyntaxKit.CommandLine.Similarity
import SyntaxKit.CommandLine.Usage
import SyntaxKit.Number.Decimal

/-!
# Reading a command line

A command line is read word by word.  A word that begins with `--` is an option, one that begins
with `-` a row of short options, and behind a word `--` nothing is an option any more.  A value is
checked when the next argument begins, so a fault in an earlier argument is usually the one
complained about.
-/

namespace SyntaxKit

namespace CommandLine

/-! ## Values -/

/-- What was given on a command line: options with their values, and the other arguments. -/
structure Values where
  options : List (OptionSpec × String) := []
  positionals : List String := []
deriving DecidableEq, Repr

/-- The value of an option, by its name. -/
def Values.option? (v : Values) (long : String) : Option String :=
  (v.options.find? fun o => o.1.long == long).map Prod.snd

/-- Whether an option was given. -/
def Values.has (v : Values) (long : String) : Bool := v.options.any fun o => o.1.long == long

/-- Why a text is no number. -/
def numberFault (text : String) : String :=
  if text.isEmpty then "cannot parse float from empty string" else "invalid float literal"

/-- What is wrong with a value of an argument. -/
def valueFault? (kind : ValueKind) (argument value : String) : Option Fault :=
  match kind with
  | .text => none
  | .path => if value.isEmpty then some (.missingValue argument) else none
  | .number =>
    match Double.read? value.toList with
    | some _ => none
    | none => some (.invalidValue value argument (numberFault value))

/-! ## The arguments of a command -/

/-- An argument whose value is not checked yet. -/
inductive Pending where
  | nothing
  | option (o : OptionSpec) (value : Option String)
  | positionals (p : PositionalSpec) (values : List String)

/-- The state of reading the arguments of a command. -/
structure Progress where
  values : Values := {}
  pending : Pending := .nothing

/-- What is being read: a command of a program, with values from the environment. -/
structure Context where
  program : ProgramSpec
  command : CommandSpec
  environment : String → Option String

namespace Context

variable (x : Context)

/-- The usage shown with most complaints. -/
def fullUsage : String := x.command.usage x.program.name

/-- The usage with the arguments that were given. -/
def usedUsage (v : Values) (also : List OptionSpec) : String :=
  x.command.usageWith x.program.name (v.options.map Prod.fst ++ also) (!v.positionals.isEmpty)

/-- Checks the value of an option and takes it over. -/
def takeOption (v : Values) (o : OptionSpec) (value : String) : Except Complaint Values :=
  if v.has o.long then .error { fault := .repeatedOption o.shown, usage := some x.fullUsage }
  else
    match valueFault? o.kind o.shown value with
    | some fault => .error { fault }
    | none => .ok { v with options := v.options ++ [(o, value)] }

/-- Checks the argument that is not checked yet. -/
def settle (s : Progress) : Except Complaint Values :=
  match s.pending with
  | .nothing => .ok s.values
  | .option o none => .error { fault := .missingValue o.shown }
  | .option o (some value) => x.takeOption s.values o value
  | .positionals p values =>
    match values.findSome? (valueFault? p.kind p.shown) with
    | some fault => .error { fault }
    | none => .ok { s.values with positionals := s.values.positionals ++ values }

/-- The values so far, where an argument with a fault does not count. -/
def settled (s : Progress) : Values :=
  match x.settle s with
  | .ok v => v
  | .error _ => s.values

/-- All options of the command, with the one that asks for help. -/
def options : List OptionSpec := x.command.options ++ [helpSwitch]

/-- The option with a long name. -/
def longOption? (name : List Char) : Option OptionSpec :=
  x.options.find? fun o => o.long.toList == name

/-- The option with a short name. -/
def shortOption? (c : Char) : Option OptionSpec := x.options.find? fun o => o.short == some c

/-- Whether the command takes arguments without a name. -/
def takesPositionals : Bool := !x.command.positionals.isEmpty

/-- The complaint about an option that the command does not have. -/
def unknownLong (s : Progress) (name : List Char) : Complaint :=
  let name := String.ofList name
  let values := x.settled s
  match (similarWords name (x.options.map OptionSpec.long)).getLast? with
  | some similar =>
    let also := (x.longOption? similar.toList).toList.filter fun o => !values.has o.long
    { fault := .unexpected ("--" ++ name), tips := [.similarOption ("--" ++ similar)]
      usage := some (x.usedUsage values also) }
  | none =>
    { fault := .unexpected ("--" ++ name)
      tips := if x.takesPositionals then [.asValue ("--" ++ name)] else []
      usage := some (x.usedUsage values []) }

/-- The complaint about a short option that the command does not have. -/
def unknownShort (c : Char) : Complaint :=
  let name := String.ofList ['-', c]
  { fault := .unexpected name, tips := if x.takesPositionals then [.asValue name] else []
    usage := some x.fullUsage }

/-- How reading went on: it goes on with a state, or help was asked for. -/
inductive Reading where
  | onward (s : Progress)
  | help

/-- Reads an option that was found, with the value attached to it if there is one. -/
def readOption (s : Progress) (o : OptionSpec) (attached : Option String) :
    Except Complaint Reading :=
  match o.valueName, attached with
  | none, some value =>
    let usage := x.usedUsage (x.settled s) []
    .error { fault := .needlessValue value o.shown, usage := some usage }
  | none, none =>
    match x.settle s with
    | .error e => .error e
    | .ok v =>
      if o = helpSwitch then .ok .help
      else (x.takeOption v o "").map fun v => .onward { values := v }
  | some _, none => (x.settle s).map fun v => .onward ⟨v, .option o none⟩
  | some _, some value =>
    match x.settle s with
    | .error e => .error e
    | .ok v => (x.takeOption v o value).map fun v => .onward { values := v }

/-- Reads a word that begins with `--`. -/
def readLong (s : Progress) (word : List Char) : Except Complaint Reading :=
  let (name, rest) := word.span (· != '=')
  match x.longOption? name with
  | none => .error (x.unknownLong s name)
  | some o => x.readOption s o (if rest.isEmpty then none else some (String.ofList rest.tail))

/-- Reads a row of short options.  Behind one that takes a value the row is the value. -/
def readShorts (s : Progress) : List Char → Except Complaint Reading
  | [] => .ok (.onward s)
  | c :: rest =>
    match x.shortOption? c with
    | none => .error (x.unknownShort c)
    | some o =>
      if o.valueName.isSome then
        let value := if rest.head? = some '=' then rest.tail else rest
        x.readOption s o (if rest.isEmpty then none else some (String.ofList value))
      else
        match x.readOption s o none with
        | .ok (.onward s) => readShorts s rest
        | r => r

/-- How many arguments without a name there are so far. -/
def positionalCount (s : Progress) : Nat :=
  s.values.positionals.length
    + match s.pending with
      | .positionals _ values => values.length
      | _ => 0

/-- The argument without a name that comes next, if the command takes one more. -/
def nextPositional? (s : Progress) : Option PositionalSpec :=
  match x.command.positionals[positionalCount s]? with
  | some p => some p
  | none => x.command.positionals.getLast?.filter PositionalSpec.many

/-- Reads an argument without a name. -/
def readPositional (s : Progress) (word : String) : Except Complaint Progress :=
  match x.nextPositional? s with
  | none => .error { fault := .unexpected word, usage := some x.fullUsage }
  | some p =>
    match s.pending with
    | .positionals q values =>
      if q.many then .ok { s with pending := .positionals q (values ++ [word]) }
      else (x.settle s).map fun v => ⟨v, .positionals p [word]⟩
    | _ => (x.settle s).map fun v => ⟨v, .positionals p [word]⟩

/-- Reads words none of which is an option. -/
def readTrailing : List String → Progress → Except Complaint Progress
  | [], s => .ok s
  | word :: rest, s =>
    match x.readPositional s word with
    | .ok s => readTrailing rest s
    | .error e => .error e

/-- Reads the words of a command. -/
def readWords : List String → Progress → Except Complaint Reading
  | [], s => .ok (.onward s)
  | word :: rest, s =>
    let next (r : Except Complaint Reading) : Except Complaint Reading :=
      match r with
      | .ok (.onward s) => readWords rest s
      | r => r
    match word.toList with
    | ['-', '-'] => (x.readTrailing rest s).map .onward
    | '-' :: '-' :: long => next (x.readLong s long)
    | '-' :: c :: shorts => next (x.readShorts s (c :: shorts))
    | _ =>
      match s.pending with
      | .option o none => readWords rest { s with pending := .option o (some word) }
      | _ => next ((x.readPositional s word).map .onward)

/-- The values with those that the environment gives. -/
def withEnvironment (v : Values) : List OptionSpec → Except Complaint Values
  | [] => .ok v
  | o :: rest =>
    match v.has o.long, o.variableName.bind x.environment with
    | false, some value =>
      match x.takeOption v o value with
      | .ok v => withEnvironment v rest
      | .error e => .error e
    | _, _ => withEnvironment v rest

/-- Checks that nothing required is missing. -/
def complete (v : Values) : Except Complaint Values :=
  match (x.command.positionals.drop v.positionals.length).filter PositionalSpec.required with
  | [] => .ok v
  | missing =>
    let usage := x.command.usageWith x.program.name (v.options.map Prod.fst) true
    .error { fault := .missing (missing.map PositionalSpec.shown), usage := some usage }

end Context

/-! ## The command line of a program -/

/-- The answer to a command line: a text that was asked for, a text that says why it is refused, or
a command with its values. -/
inductive Answer where
  | shown (text : String)
  | refused (text : String)
  | accepted (command : CommandSpec) (before values : Values)

/-- Reads the arguments of a command.  `before` are the options in front of it. -/
def readCommand (x : Context) (before : Values) (words : List String) : Answer :=
  match x.readWords words {} with
  | .error e => .refused e.text
  | .ok .help => .shown (x.command.helpText x.program.name x.environment)
  | .ok (.onward s) =>
    match (x.settle s).bind fun v => (x.withEnvironment v x.command.options).bind x.complete with
    | .error e => .refused e.text
    | .ok v => .accepted x.command before v

/-- Shows the help of the commands that are named; there is only one level of them. -/
def readHelp (p : ProgramSpec) (environment : String → Option String) : List String → Answer
  | [] => .shown (p.helpText environment)
  | name :: rest =>
    match p.command? name, rest with
    | some c, [] => .shown (c.helpText p.name environment)
    | some c, other :: _ =>
      let complaint : Complaint :=
        { fault := .unknownCommand other, usage := some (c.usage p.name) }
      .refused complaint.text
    | none, _ =>
      if name = helpCommand then .shown (helpCommandText p.name)
      else
        let complaint : Complaint := { fault := .unknownCommand name, usage := some p.usage }
        .refused complaint.text

namespace ProgramSpec

variable (p : ProgramSpec) (environment : String → Option String)

/-- The options in front of a command are read like those of a command without a name. -/
def context : Context :=
  ⟨p, { name := "", about := p.about, options := p.options ++ [versionSwitch]
        positionals := [] }, environment⟩

/-- The complaint about an unknown option in front of a command.  An option that the command takes
is proposed if that command is named later. -/
def unknownOption (name : List Char) (rest : List String) : Complaint :=
  let text := String.ofList name
  let longs (options : List OptionSpec) := (options ++ [helpSwitch]).map OptionSpec.long
  let fault := Fault.unexpected ("--" ++ text)
  match (similarWords text (longs (p.options ++ [versionSwitch]))).getLast? with
  | some similar =>
    { fault, tips := [.similarOption ("--" ++ similar)]
      usage := some (p.name ++ " --" ++ similar ++ " <COMMAND>") }
  | none =>
    let proposals := rest.filterMap fun word =>
      (p.command? word).bind fun c =>
        (similarWords text (longs c.options)).getLast?.map fun o => (c.name, o)
    { fault
      tips := proposals.head?.toList.map fun (c, o) => .optionOfCommand c ("--" ++ o)
      usage := some p.usage }

/-- The complaint about a word that is no command. -/
def unknownWord (word : String) : Complaint :=
  let similar := similarWords word p.commandNames
  { fault := .unknownCommand word
    tips := if similar.isEmpty then [] else [.similarCommands similar], usage := some p.usage }

/-- Reads a command line up to its command.  `isFirst` says that there was nothing in front. -/
def readWords : List String → Progress → Bool → Answer
  | [], s, isFirst =>
    match (p.context environment).settle s with
    | .error e => .refused e.text
    | .ok _ =>
      if isFirst then .refused (p.helpText environment)
      else
        let complaint : Complaint :=
          { fault := .noCommand p.name p.commandNames, usage := some p.usage }
        .refused complaint.text
  | word :: rest, s, _ =>
    let x := p.context environment
    let next (r : Except Complaint Context.Reading) : Answer :=
      match r with
      | .error e => .refused { e with usage := e.usage.map fun _ => p.usage }.text
      | .ok .help => .shown (p.helpText environment)
      | .ok (.onward s) =>
        if s.values.has versionSwitch.long then .shown (p.name ++ " " ++ p.version ++ "\n")
        else readWords rest s false
    match word.toList, s.pending with
    | ['-', '-'], _ =>
      match x.settle s, rest with
      | .error e, _ => .refused e.text
      | .ok _, [] => readWords [] s false
      | .ok _, other :: _ =>
        if p.commandNames.contains other then
          let complaint : Complaint :=
            { fault := .unexpected other, tips := [.needlessDashes other], usage := some p.usage }
          .refused complaint.text
        else .refused (p.unknownWord other).text
    | '-' :: '-' :: long, _ =>
      let name := long.takeWhile (· != '=')
      if (x.longOption? name).isSome then next (x.readLong s long)
      else .refused (p.unknownOption name rest).text
    | '-' :: c :: shorts, _ => next (x.readShorts s (c :: shorts))
    | _, .option o none => readWords rest { s with pending := .option o (some word) } false
    | _, _ =>
      match x.settle s with
      | .error e => .refused e.text
      | .ok before =>
        if word = helpCommand then readHelp p environment rest
        else
          match p.command? word with
          | some c => readCommand ⟨p, c, environment⟩ before rest
          | none => .refused (p.unknownWord word).text

/-- The answer to a command line. -/
def read (words : List String) : Answer := p.readWords environment words {} true

end ProgramSpec

end CommandLine

end SyntaxKit
