import SyntaxKit.Files.Error
import SyntaxKit.Files.Path

/-!
# Why a deployment fails

A deployment goes through a number of steps, and an error names the step that failed and the cause.
-/

namespace SyntaxKit

namespace Deployment

/-- The steps of a deployment, in their order. -/
inductive Step where
  | resolvePath
  | validate
  | clean
  | generate
  | build
  | copyGrammar
  | copyQueries
deriving DecidableEq, Repr

/-- What is done in a step. -/
def Step.activity : Step → String
  | .resolvePath => "Resolving the Helix path"
  | .validate => "Validating the Helix checkout"
  | .clean => "Cleaning build artifacts"
  | .generate => "Generating the parser"
  | .build => "Building the grammar library"
  | .copyGrammar => "Copying the grammar library"
  | .copyQueries => "Copying queries"

/-- How a run of the build tool ended. -/
inductive Exit where
  | status (code : Nat)
  | signal (number : Nat)
deriving DecidableEq, Repr

/-- The name of a signal. -/
def signalName? : Nat → Option String
  | 1 => some "SIGHUP"
  | 2 => some "SIGINT"
  | 3 => some "SIGQUIT"
  | 4 => some "SIGILL"
  | 5 => some "SIGTRAP"
  | 6 => some "SIGABRT"
  | 7 => some "SIGBUS"
  | 8 => some "SIGFPE"
  | 9 => some "SIGKILL"
  | 10 => some "SIGUSR1"
  | 11 => some "SIGSEGV"
  | 12 => some "SIGUSR2"
  | 13 => some "SIGPIPE"
  | 14 => some "SIGALRM"
  | 15 => some "SIGTERM"
  | _ => none

/-- The text of an exit. -/
def Exit.text : Exit → String
  | .status code => "exit status: " ++ toString code
  | .signal number =>
    "signal: " ++ toString number
      ++ match signalName? number with
        | some name => " (" ++ name ++ ")"
        | none => ""

/-- Why a step failed. -/
inductive Cause where
  /-- There is no grammar in the directory. -/
  | grammarMissing (directory : Path)
  /-- No path is given and none is saved in the file. -/
  | noPath (file : Path)
  | pathMissing (path : Path)
  | runtimeMissing (path : Path)
  | languagesMissing (path : Path)
  /-- A file could not be accessed. -/
  | access (path : Path) (error : FileError)
  /-- The build tool could not be started. -/
  | toolNotStarted (subcommand : String) (error : FileError)
  /-- The build tool failed and wrote a complaint. -/
  | toolFailed (subcommand : String) (exit : Exit) (complaint : String)
  | libraryMissing (directory : Path)
  | queriesMissing (directory : Path)
deriving DecidableEq, Repr

/-- The name of the language. -/
def languageName : String := "harneet"

/-- The file names of the built library, the preferred one first. -/
def libraryNames : List String := ["so", "dylib"].map fun ext => languageName ++ "." ++ ext

/-- The text of a cause. -/
def Cause.message : Cause → String
  | .grammarMissing directory => "grammar.js not found in " ++ toString directory
  | .noPath file => "no Helix path given and none saved in " ++ toString file
  | .pathMissing path => "path does not exist: " ++ toString path
  | .runtimeMissing path =>
    "not a Helix checkout, missing 'runtime' directory: " ++ toString path
  | .languagesMissing path =>
    "not a Helix checkout, missing 'languages.toml': " ++ toString path
  | .access path error => toString path ++ ": " ++ error.message
  | .toolNotStarted subcommand error =>
    "could not run `tree-sitter " ++ subcommand ++ "`: " ++ error.message
      ++ " (install it with `npm install -g tree-sitter-cli`)"
  | .toolFailed subcommand exit complaint =>
    "`tree-sitter " ++ subcommand ++ "` exited with " ++ exit.text ++ ": " ++ complaint
  | .libraryMissing directory =>
    "no " ++ " or ".intercalate libraryNames ++ " in " ++ toString directory
  | .queriesMissing directory => "queries directory not found: " ++ toString directory

end Deployment

end SyntaxKit
