import SyntaxKit.Task
import SyntaxKit.Text.Blank
import SyntaxKit.Text.Utf8

/-!
# The checkout to deploy to

A deployment goes to a checkout of the editor.  Its path is given or, if it is not, taken from a
file beside the grammar in which the last given path was saved.  Either way it is made absolute and
has to look like a checkout; only then is a given path saved.
-/

namespace SyntaxKit

namespace Deployment

/-- The part of the program that the events of a deployment are about. -/
def target : String := "harneet::deploy"

/-- An event of a deployment. -/
def event (level : Log.Level) (message : String) (fields : List (String × String) := []) :
    Log.Event :=
  ⟨level, target, message, fields⟩

/-- The name of the file that keeps the path of the checkout. -/
def savedPathName : String := ".helix_path"

/-- The file that keeps the path of the checkout. -/
def savedPathFile (grammar : Path) : Path := grammar.child savedPathName

/-- Makes a path absolute, with the home directory in the place of a `~` at its start. -/
def absolute (p : Path) : Task Path := do
  let q ← Task.look fun s _ => (p.expandHome s.home).absolute? s.workingDirectory.path
  match q with
  | some q => pure q
  | none => Task.fail (.file p .emptyPath)

/-- What keeps a path from being a checkout. -/
def checkoutFault? (s : Surroundings) (fs : FileSystem) (p : Path) : Option Cause :=
  if !fs.pathExists s.workingDirectory p then some (.pathMissing p)
  else if !fs.isDirectory s.workingDirectory (p.child "runtime") then some (.runtimeMissing p)
  else if !fs.isFile s.workingDirectory (p.child "languages.toml") then some (.languagesMissing p)
  else none

/-- Fails unless a path is a checkout. -/
def validate (p : Path) : Task Unit := do
  match ← Task.look fun s fs => checkoutFault? s fs p with
  | some cause => Task.fail (.deployment .validate cause)
  | none => Task.record (event .debug "Valid Helix checkout" [("path", toString p)])

/-- The saved path, made absolute; blanks around it do not count, and nothing else is no path. -/
def loadSaved (grammar : Path) : Task (Option Path) := do
  let file := savedPathFile grammar
  match ← Task.look fun s fs => fs.read s.workingDirectory file with
  | .error .notFound => pure none
  | .error e => Task.fail (.file file e)
  | .ok bytes =>
    match Utf8.decode? bytes with
    | none => Task.fail (.file file .invalidText)
    | some text =>
      match Text.trim text with
      | [] => pure none
      | path => do
        let q ← absolute (.ofText path)
        pure (some q)

/-- What is saved of a path: its text, with a replacement for what is none. -/
def savedBytes (checkout : Path) : List UInt8 := Utf8.encode checkout.shown

/-- Saves a path for later deployments. -/
def save (grammar checkout : Path) : Task Unit := do
  let file := savedPathFile grammar
  match ← Task.changePartly fun s fs => fs.write s.workingDirectory file (savedBytes checkout) with
  | some e => Task.fail (.file file e)
  | none => Task.record (event .info "Saved Helix path" [("file", toString file)])

/-- The checkout to deploy to: the given path, which is saved, or else the saved path. -/
def resolve (grammar : Path) : Option Path → Task Path
  | some given => do
    let p ← absolute given
    validate p
    save grammar p
    pure p
  | none => do
    match ← loadSaved grammar with
    | some p =>
      Task.record (event .info "Using saved Helix path" [("path", toString p)])
      validate p
      pure p
    | none => Task.fail (.deployment .resolvePath (.noPath (savedPathFile grammar)))

end Deployment

end SyntaxKit
