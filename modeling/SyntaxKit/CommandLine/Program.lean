import SyntaxKit.CommandLine.Arguments
import SyntaxKit.Deployment.Install
import SyntaxKit.Language.Harneet.Resources

/-!
# The commands of the program

The program has four commands: one shows the tree of a file, one checks files for errors, one shows
how a file is highlighted, and one deploys the grammar to a checkout of the editor.
-/

namespace SyntaxKit

namespace CommandLine

/-- The option for the filter of log events, which every command takes. -/
def logLevelOption : OptionSpec :=
  { long := "log-level", valueName := some "LOG_LEVEL"
    help := "Log filter used when HARNEET_LOG is not set (e.g. `info`, `harneet=debug`)"
    default := some "warn" }

/-- The switch for errors only. -/
def quietSwitch : OptionSpec :=
  { long := "quiet", short := some 'q', help := "Only report syntax errors" }

/-- The option for the extension of source files. -/
def extensionOption : OptionSpec :=
  { long := "ext", valueName := some "EXT"
    help := "Extension of source files searched in directories"
    default := some Harneet.defaultExtension }

/-- The option for the threshold of checks. -/
def thresholdOption : OptionSpec :=
  { long := "max-error-ratio", valueName := some "MAX_ERROR_RATIO", kind := .number
    help := "Accept files whose share of ERROR nodes is at most this value", default := some "0" }

/-- The option for the directory of the grammar. -/
def grammarOption : OptionSpec :=
  { long := "grammar-dir", valueName := some "GRAMMAR_DIR", kind := .path
    help := "Directory of the tree-sitter-harneet grammar"
    default := some "crates/tree-sitter-harneet", variableName := some "HARNEET_GRAMMAR_DIR" }

/-- The switch for a deployment without a build. -/
def skipBuildSwitch : OptionSpec :=
  { long := "skip-build"
    help := "Deploy the existing library without regenerating or rebuilding it" }

/-- The command that shows a tree. -/
def parseCommand : CommandSpec :=
  { name := "parse", about := "Parse a file and print its syntax tree"
    options := [logLevelOption, quietSwitch], positionals := [{ name := "FILE" }] }

/-- The command that checks files. -/
def checkCommand : CommandSpec :=
  { name := "check", about := "Check files or directories for syntax errors"
    options := [extensionOption, logLevelOption, thresholdOption]
    positionals := [{ name := "PATHS", many := true }] }

/-- The command that shows highlighting. -/
def highlightCommand : CommandSpec :=
  { name := "highlight", about := "Print the highlight captures of a file"
    options := [logLevelOption], positionals := [{ name := "FILE" }] }

/-- The command that deploys. -/
def deployCommand : CommandSpec :=
  { name := "deploy", about := "Install the grammar library and queries into a Helix checkout"
    options := [grammarOption, logLevelOption, skipBuildSwitch]
    positionals := [{ name := "HELIX_PATH", required := false
                      help := "Helix checkout; defaults to the path saved by a previous run" }] }

/-- The program. -/
def program : ProgramSpec :=
  { name := "harneet", version := "0.1.0"
    about := "Parse, check and deploy the Harneet tree-sitter grammar"
    options := [logLevelOption]
    commands := [parseCommand, checkCommand, highlightCommand, deployCommand] }

/-! ## Commands with their arguments -/

/-- What the program is asked to do. -/
inductive Job where
  | parse (file : Path) (quiet : Bool)
  | check (paths : List Path) (extension : List Char) (threshold : Double)
  | highlight (file : Path)
  | deploy (plan : Deployment.Plan)

/-- The value of an option, or its default. -/
def Values.valueOf (v : Values) (o : OptionSpec) : String :=
  (v.option? o.long).getD (o.default.getD "")

/-- The job that a command with its values is. -/
def jobOf (c : CommandSpec) (v : Values) : Job :=
  let first := Path.ofString (v.positionals.headD "")
  if c = parseCommand then .parse first (v.has quietSwitch.long)
  else if c = checkCommand then
    .check (v.positionals.map Path.ofString) (v.valueOf extensionOption).toList
      ((Double.read? (v.valueOf thresholdOption).toList).getD (.finite 0))
  else if c = highlightCommand then .highlight first
  else
    .deploy
      { grammar := Path.ofString (v.valueOf grammarOption)
        checkout := v.positionals.head?.map Path.ofString
        skipBuild := v.has skipBuildSwitch.long }

/-- The text of the filter of log events, given behind the command or in front of it. -/
def logLevel (before values : Values) : String :=
  ((values.option? logLevelOption.long).orElse fun _ => before.option? logLevelOption.long).getD
    (logLevelOption.default.getD "")

end CommandLine

end SyntaxKit
