import Std.Time.Format
import SyntaxKit.CommandLine.Run

/-!
# The program

The outer layer: it takes in the files that a command line is about, runs `CommandLine.run` on them,
and puts back what has changed.  It decides nothing else.  It starts no other programs, so a
deployment needs a library that is built already.
-/

namespace SyntaxKit

namespace CommandLine

/-! ## Taking in files -/

/-- What is at a place of the system. -/
def entryAt? (place : Place) : IO (Option FileSystem.Entry) := do
  let name := toString place.path
  try
    let real ← IO.FS.realPath name
    if toString real != name then return some (.link (Path.ofString (toString real)))
    if ← real.isDir then return some .directory
    let bytes ← IO.FS.readBinFile name
    return some (.file bytes.toList .document)
  catch _ => return none

/-- Takes in what some steps from a directory lead through. -/
partial def takeAlong (files : FileSystem) (here : Place) :
    List FileSystem.Move → IO FileSystem
  | [] => pure files
  | .arrive :: rest | .stay :: rest => takeAlong files here rest
  | .up :: rest => takeAlong files here.dropLast rest
  | .enter name :: rest => do
    let there := here ++ [name]
    match ← entryAt? there with
    | none => pure files
    | some (.link target) =>
      takeAlong (files.insert there (.link target)) [] (FileSystem.moves target ++ rest)
    | some entry => takeAlong (files.insert there entry) there rest

/-- Takes in what a path leads through. -/
def takePath (workingDirectory : Place) (files : FileSystem) (p : Path) : IO FileSystem :=
  takeAlong files (FileSystem.start workingDirectory p) (FileSystem.moves p)

/-- Takes in what is below a directory. -/
partial def takeBelow (files : FileSystem) (place : Place) : IO FileSystem := do
  let directory ← IO.FS.realPath (toString place.path)
  let mut files := files
  for entry in ← directory.readDir do
    let name : Name := entry.fileName
    files ← takeAlong files place [.enter name]
    if files.entry? (place ++ [name]) == some .directory then
      files ← takeBelow files (place ++ [name])
  return files

/-- Takes in what a path leads to with all that is below it. -/
def takeTree (workingDirectory : Place) (files : FileSystem) (p : Path) : IO FileSystem := do
  let files ← takePath workingDirectory files p
  match files.lookup workingDirectory p true with
  | .ok (place, .directory) => takeBelow files place
  | _ => return files

/-- The paths in the directory of a grammar that a deployment looks at. -/
def grammarPaths (grammar : Path) : List Path :=
  (["grammar.js", Deployment.savedPathName, "src/parser.c"] ++ Deployment.libraryNames).map
    grammar.child

/-- The paths in a checkout that a deployment looks at. -/
def checkoutPaths (checkout : Path) : List Path :=
  ["languages.toml", "runtime/grammars/" ++ Deployment.languageName ++ ".so"].map checkout.child

/-- Takes in what a job is about. -/
def takeJob (s : Surroundings) (files : FileSystem) : Job → IO FileSystem
  | .parse p _ | .highlight p => takePath s.workingDirectory files p
  | .check paths _ _ => paths.foldlM (takeTree s.workingDirectory) files
  | .deploy plan => do
    let files ← (grammarPaths plan.grammar).foldlM (takePath s.workingDirectory) files
    let files ← takeTree s.workingDirectory files (plan.grammar.child "queries")
    let saved :=
      match Deployment.loadSaved plan.grammar s { files } with
      | (.ok p, _) => p
      | (.error _, _) => none
    match plan.checkout.or saved with
    | none => return files
    | some checkout =>
      let checkout := checkout.expandHome s.home
      let files ← (checkoutPaths checkout).foldlM (takePath s.workingDirectory) files
      let queries := checkout.child ("runtime/queries/" ++ Deployment.languageName)
      takeTree s.workingDirectory files queries

/-! ## Putting back changes -/

/-- Makes the changes that lead from one file system to another. -/
def putBack (before after : FileSystem) : IO Unit := do
  for (place, _) in before.entries do
    if (after.entry? place).isNone then IO.FS.removeFile (toString place.path)
  for (place, entry) in after.entries do
    if before.entry? place != some entry then
      match entry with
      | .directory => IO.FS.createDirAll (toString place.path)
      | .file bytes _ => IO.FS.writeBinFile (toString place.path) ⟨bytes.toArray⟩
      | .link _ => pure ()

/-! ## Surroundings -/

/-- The environment variables that the program looks at. -/
def variableNames : List String := ["HARNEET_GRAMMAR_DIR", "HARNEET_LOG", "HOME", "NO_COLOR"]

/-- The values of the environment variables that are set. -/
def readVariables : IO (List (String × String)) :=
  variableNames.filterMapM fun name => do
    let value ← IO.getEnv name
    return value.map fun v => (name, v)

/-- The time at which log lines are written. -/
def timeText : IO String := do
  let now := Std.Time.DateTime.ofTimestampWithZone (← Std.Time.Timestamp.now) .UTC
  return now.format "uuuu-MM-dd'T'HH:mm:ss.SSSSSS'Z'"

/-- The environment of a run in the system. -/
def readEnvironment : IO Environment := do
  let known ← readVariables
  let directory := Path.ofString (toString (← IO.currentDir))
  let time ← timeText
  return {
    surroundings :=
      { workingDirectory := directory.components.filterMap fun
          | .normal name => some name
          | _ => none
        home := (known.lookup "HOME").map Path.ofString
        tool := fun _ _ files => (.notStarted .notFound, files) }
    getVariable := fun name => known.lookup name
    time }

/-- The bundled highlighting query. -/
def bundledQuery (_ : Unit) : Query :=
  match Query.compile Harneet.language Harneet.highlightsQuery.toList with
  | .ok query => query
  | .error _ => default

end CommandLine

end SyntaxKit

open SyntaxKit CommandLine in
/-- Runs the program on the command line. -/
def main (args : List String) : IO UInt32 := do
  let environment ← readEnvironment
  let s := environment.surroundings
  let around ← takeAlong (.mk []) [] (FileSystem.moves s.workingDirectory.path)
  let before ←
    match program.read environment.getVariable args with
    | .accepted command _ values => takeJob s around (jobOf command values)
    | _ => pure around
  let (ending, after) := run Harneet.language bundledQuery environment args before
  putBack before after
  (← IO.getStderr).putStr ending.complaints
  (← IO.getStdout).putStr ending.output
  return UInt32.ofNat ending.status
