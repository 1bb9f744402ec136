import SyntaxKit.Deployment.Build

/-!
# Installing into a checkout

The library is copied to `runtime/grammars/harneet.so`, whatever it is called in the directory of
the grammar, and the queries to `runtime/queries/harneet`.  `Deployment.deploy` is the whole
deployment.
-/

namespace SyntaxKit

namespace Deployment

/-! ## The library -/

/-- The built library, if there is one. -/
def findLibrary (grammar : Path) : Task (Option Path) :=
  Task.look fun s fs => (libraryNames.map grammar.child).find? (fs.isFile s.workingDirectory ·)

/-- Makes a directory and copies a file into it. -/
def copyInto (directory source target : Path) : Task (Option FileError) := do
  match ← Task.changePartly fun s fs => fs.makeDirectories s.workingDirectory directory with
  | some e => pure (some e)
  | none => Task.changePartly fun s fs => fs.copy s.workingDirectory source target

/-- Copies the library into a checkout, and gives the path of the copy. -/
def copyGrammar (grammar checkout : Path) : Task Path := do
  match ← findLibrary grammar with
  | none => Task.fail (.deployment .copyGrammar (.libraryMissing grammar))
  | some library =>
    let directory := (checkout.child "runtime").child "grammars"
    let target := directory.child (languageName ++ ".so")
    match ← copyInto directory library target with
    | some e => Task.fail (.deployment .copyGrammar (.access target e))
    | none =>
      Task.record (event .info "Copied grammar library"
        [("from", toString library), ("to", toString target)])
      pure target

/-! ## The queries -/

/-- The extension of a query file. -/
def queryExtension : Name := "scm"

/-- The paths of the query files among the names in a directory, in their order. -/
def queryPaths (s : Surroundings) (fs : FileSystem) (directory : Path) (names : List Name) :
    List Path :=
  let paths := names.map fun name => directory.join ⟨name⟩
  (paths.filter fun p =>
    fs.isFile s.workingDirectory p && p.extension? == some queryExtension).mergeSort Path.le

/-- The query files in a directory, or why it cannot be listed. -/
def queryFiles (s : Surroundings) (fs : FileSystem) (directory : Path) :
    Except FileError (List Path) :=
  (fs.list s.workingDirectory directory).map (queryPaths s fs directory)

/-- Copies files into a directory one after the other, and gives the paths of the copies. -/
def copyAll (directory : Path) : List Path → Task (List Path)
  | [] => pure []
  | file :: rest => do
    match file.fileName? with
    | none => copyAll directory rest
    | some name =>
      let target := directory.join ⟨name⟩
      match ← Task.changePartly fun s fs => fs.copy s.workingDirectory file target with
      | some e => Task.fail (.deployment .copyQueries (.access target e))
      | none =>
        Task.record (event .debug "Copied query" [("query", toString target)])
        let copied ← copyAll directory rest
        pure (target :: copied)

/-- Copies the queries into a checkout, and gives the paths of the copies. -/
def copyQueries (grammar checkout : Path) : Task (List Path) := do
  let source := grammar.child "queries"
  if !(← Task.look fun s fs => fs.isDirectory s.workingDirectory source) then
    Task.fail (.deployment .copyQueries (.queriesMissing source))
  else
    match ← Task.look fun s fs => queryFiles s fs source with
    | .error e => Task.fail (.deployment .copyQueries (.access source e))
    | .ok [] =>
      Task.record (event .warn "No .scm query files found" [("dir", toString source)])
      pure []
    | .ok files =>
      let directory := ((checkout.child "runtime").child "queries").child languageName
      match ← Task.changePartly fun s fs => fs.makeDirectories s.workingDirectory directory with
      | some e => Task.fail (.deployment .copyQueries (.access directory e))
      | none =>
        let copied ← copyAll directory files
        Task.record (event .info "Copied query files" [("count", toString copied.length)])
        pure copied

/-! ## The configuration of the editor -/

/-- The line by which the editor knows the language. -/
def languageLine : List Char := ("name = \"" ++ languageName ++ "\"").toList

/-- Whether a text contains another. -/
def containsText (part : List Char) : List Char → Bool
  | [] => part.isEmpty
  | c :: t => part.isPrefixOf (c :: t) || containsText part t

/-- What the editor's configuration says, or why it cannot be read. -/
def configuration (s : Surroundings) (fs : FileSystem) (checkout : Path) :
    Except FileError (List Char) :=
  match fs.read s.workingDirectory (checkout.child "languages.toml") with
  | .error e => .error e
  | .ok bytes =>
    match Utf8.decode? bytes with
    | some text => .ok text
    | none => .error .invalidText

/-- Whether the configuration of the editor knows the language; it is no failure if it does not. -/
def isConfigured (checkout : Path) : Task Bool := do
  match ← Task.look fun s fs => configuration s fs checkout with
  | .error e =>
    Task.record (event .warn "Could not read languages.toml" [("error", e.message)])
    pure false
  | .ok text =>
    if containsText languageLine text then
      Task.record (event .info "Harneet is configured in languages.toml")
      pure true
    else
      Task.record (event .warn
        "Harneet not found in languages.toml; see https://docs.helix-editor.com/languages.html")
      pure false

/-! ## The deployment -/

/-- What to deploy and where. -/
structure Plan where
  grammar : Path
  checkout : Option Path
  skipBuild : Bool
deriving DecidableEq, Repr

/-- What a deployment did. -/
structure Summary where
  checkout : Path
  library : Path
  queries : List Path
  configured : Bool
deriving DecidableEq, Repr

/-- Builds the library unless that is skipped. -/
def prepare (plan : Plan) : Task Unit :=
  if plan.skipBuild then Task.record (event .info "Skipping parser generation and build")
  else build plan.grammar

/-- Deploys a grammar to a checkout. -/
def deploy (plan : Plan) : Task Summary := do
  let grammar := plan.grammar
  if !(← Task.look fun s fs => fs.pathExists s.workingDirectory (grammar.child "grammar.js")) then
    Task.fail (.deployment .resolvePath (.grammarMissing grammar))
  else
    let checkout ← resolve grammar plan.checkout
    Task.record (event .info "Deploying to Helix" [("helix", toString checkout)])
    prepare plan
    let library ← copyGrammar grammar checkout
    let queries ← copyQueries grammar checkout
    let configured ← isConfigured checkout
    pure { checkout, library, queries, configured }

end Deployment

end SyntaxKit
