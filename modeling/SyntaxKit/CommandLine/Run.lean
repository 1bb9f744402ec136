import SyntaxKit.CommandLine.Program
import SyntaxKit.Highlight
import SyntaxKit.Language.Harneet
import SyntaxKit.Report.Basic
import SyntaxKit.Sources.Check
import SyntaxKit.Sources.Collect
import SyntaxKit.Text.Quoted
import SyntaxKit.Tree.Expression

/-!
# Running the program

`CommandLine.run` is the whole program as a function: from a command line, the environment and a
file system to an exit status, what is written, and the file system afterwards.
-/

namespace SyntaxKit

namespace CommandLine

/-! ## Jobs -/

/-- What came of a job: what it writes to the output, and whether all was well. -/
structure Result where
  output : String
  success : Bool

/-- Writes reports of the errors in a text, up to the first that cannot be shown. -/
def reportErrors (p : Path) (text : List Char) : List SyntaxError → Task Unit
  | [] => pure ()
  | e :: rest => do
    match Report.ofError? text (toString p) e with
    | some report =>
      Task.write report.render
      reportErrors p text rest
    | none => Task.fail (.unshowable p)

/-- Shows the tree of a file and reports its errors. -/
def parseFile (lang : Language) (p : Path) (quiet : Bool) : Task Result := do
  let file ← Sources.openFile lang p
  let document := file.document
  let errors := document.tree.syntaxErrors lang document.text
  reportErrors p document.text errors
  pure ⟨if quiet then "" else document.tree.expression lang ++ "\n", errors.isEmpty⟩

/-- Checks files one after the other and gives the number of those that do not pass. -/
def checkAll (lang : Language) (threshold : Double) : List Path → Task Nat
  | [] => pure 0
  | p :: rest => do
    let file ← Sources.check lang p
    if file.passes threshold then
      Task.record ⟨.info, "harneet", "ok", [("path", toString p)]⟩
      checkAll lang threshold rest
    else
      reportErrors p file.text file.errors
      Task.write (toString p ++ ": " ++ toString file.errors.length
        ++ " syntax error(s), error ratio " ++ file.ratio.rounded.toFixed 4 ++ "\n")
      let failed ← checkAll lang threshold rest
      pure (failed + 1)

/-- Checks all source files that some paths name. -/
def checkPaths (lang : Language) (paths : List Path) (extension : List Char)
    (threshold : Double) : Task Result := do
  let files ← Sources.collect paths extension
  let failed ← checkAll lang threshold files
  pure ⟨"Checked " ++ toString files.length ++ " file(s), " ++ toString failed
    ++ " with errors\n", failed == 0⟩

/-- A point as it is shown, counted from one. -/
def shownPoint (p : Point) : String := toString (p.row + 1) ++ ":" ++ toString (p.column + 1)

/-- The line of a highlighted span. -/
def spanLine (source : Source) (s : HighlightSpan) : String :=
  let text := Text.take? (source.suffixAt s.start.bytes) (s.stop.bytes - s.start.bytes)
  shownPoint s.start.point ++ "-" ++ shownPoint s.stop.point ++ " " ++ s.capture ++ " "
    ++ String.ofList (Text.quote (text.getD [])) ++ "\n"

/-- Shows how a query highlights a file. -/
def highlightFile (lang : Language) (query : Query) (p : Path) : Task Result := do
  let file ← Sources.openFile lang p
  let document := file.document
  let spans := query.highlight lang document.tree document.text
  let source := Source.ofText document.text
  pure ⟨String.join (spans.map (spanLine source)), true⟩

/-- What a deployment tells in the end. -/
def deploymentLines (s : Deployment.Summary) : List String :=
  ["Deployed to " ++ toString s.checkout, "  grammar: " ++ toString s.library]
    ++ s.queries.map (fun q => "  query:   " ++ toString q)
    ++ (if s.configured then []
        else
          ["Harneet is not configured in languages.toml; add a [[language]] entry for it."])
    ++ ["Restart Helix to apply the changes."]

/-- Does a job.  `query` is only looked at where something is highlighted. -/
def perform (lang : Language) (query : Unit → Query) : Job → Task Result
  | .parse p quiet => parseFile lang p quiet
  | .check paths extension threshold => checkPaths lang paths extension threshold
  | .highlight p => highlightFile lang (query ()) p
  | .deploy plan => do
    let summary ← Deployment.deploy plan
    pure ⟨String.join ((deploymentLines summary).map (· ++ "\n")), true⟩

/-! ## The program -/

/-- What a run of the program leaves: its exit status and what it wrote. -/
structure Ending where
  status : Nat
  output : String
  complaints : String
deriving DecidableEq, Repr

/-- The exit status of a run that was refused. -/
def refusedStatus : Nat := 2

/-- The exit status of a run that could not show an error. -/
def brokenStatus : Nat := 101

/-- The surroundings of a run: those of its tasks, and the environment variables. -/
structure Environment where
  surroundings : Surroundings
  getVariable : String → Option String
  /-- What is written in front of each log line. -/
  time : String

/-- The filter of log events, and complaints about its text.  The environment comes first, if it
holds a filter that can be read. -/
def logFilter (getVariable : String → Option String) (level : String) : Log.Filter × List String :=
  match (getVariable "HARNEET_LOG").bind Log.Filter.read? with
  | some filter => (filter, [])
  | none => Log.Filter.readLenient level

/-- Whether log lines are written with styles. -/
def usesStyles (getVariable : String → Option String) : Bool :=
  match getVariable "NO_COLOR" with
  | some value => value.isEmpty
  | none => true

/-- The text of the notes that a filter lets through. -/
def notesText (filter : Log.Filter) (time : String) (styles : Bool) (notes : List Note) :
    String :=
  String.join (notes.map fun
    | .text s => s
    | .event e => if filter.allows e then e.line time styles else "")

/-- Runs the program on a command line. -/
def run (lang : Language) (query : Unit → Query) (e : Environment) (words : List String)
    (files : FileSystem) : Ending × FileSystem :=
  match program.read e.getVariable words with
  | .shown text => (⟨0, text, ""⟩, files)
  | .refused text => (⟨refusedStatus, "", text⟩, files)
  | .accepted c before values =>
    let (filter, ignored) := logFilter e.getVariable (logLevel before values)
    let (result, world) := perform lang query (jobOf c values) e.surroundings { files }
    let notes := String.join (ignored.map (· ++ "\n"))
      ++ notesText filter e.time (usesStyles e.getVariable) world.notes
    match result with
    | .ok r => (⟨if r.success then 0 else 1, r.output, notes⟩, world.files)
    | .error (.unshowable _) => (⟨brokenStatus, "", notes⟩, world.files)
    | .error failure => (⟨1, "", notes ++ "Error: " ++ failure.message ++ "\n"⟩, world.files)

end CommandLine

end SyntaxKit
