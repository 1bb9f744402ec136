import SyntaxKit.Deployment.Checkout

/-!
# Building the grammar library

A build starts without the outputs of an earlier one and runs the build tool twice in the directory
of the grammar, first to generate the parser and then to build the library.
-/

namespace SyntaxKit

namespace Deployment

/-- The outputs of a build. -/
def artifacts (grammar : Path) : List Path :=
  libraryNames.map grammar.child ++ [(grammar.child "src").child "parser.c"]

/-- Removes those of some files that are there, and gives their paths. -/
def removeAll : List Path → Task (List Path)
  | [] => pure []
  | p :: rest => do
    match ← Task.change fun s fs => fs.remove s.workingDirectory p with
    | none =>
      Task.record (event .debug "Removed build artifact" [("path", toString p)])
      let removed ← removeAll rest
      pure (p :: removed)
    | some .notFound => removeAll rest
    | some e => Task.fail (.deployment .clean (.access p e))

/-- Removes the outputs of an earlier build, and gives the paths of those there were. -/
def clean (grammar : Path) : Task (List Path) := removeAll (artifacts grammar)

/-- Runs the build tool in a directory, if it is one. -/
def runIn (s : Surroundings) (fs : FileSystem) (directory : Path) (subcommand : String) :
    ToolResult × FileSystem :=
  match fs.lookup s.workingDirectory directory true with
  | .error e => (.notStarted e, fs)
  | .ok (place, .directory) =>
    match fs.host.refusal? place .search with
    | some r => (.notStarted (.refused r), fs)
    | none => s.tool subcommand place fs
  | .ok _ => (.notStarted .notDirectory, fs)

/-- Runs the build tool with a subcommand; it has to end with status zero. -/
def runTool (grammar : Path) (subcommand : String) (step : Step) : Task Unit := do
  Task.record (event .info "Running tree-sitter" [("subcommand", "\"" ++ subcommand ++ "\"")])
  match ← Task.changePartly fun s fs => runIn s fs grammar subcommand with
  | .notStarted e => Task.fail (.deployment step (.toolNotStarted subcommand e))
  | .ended (.status 0) _ => pure ()
  | .ended exit complaint =>
    let text := String.ofList (Text.trim (Utf8.decode complaint))
    Task.fail (.deployment step (.toolFailed subcommand exit text))

/-- Builds the grammar library anew. -/
def build (grammar : Path) : Task Unit := do
  let _ ← clean grammar
  runTool grammar "generate" .generate
  runTool grammar "build" .build

end Deployment

end SyntaxKit
