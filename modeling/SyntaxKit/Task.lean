import SyntaxKit.Deployment.Error
import SyntaxKit.Files.System
import SyntaxKit.Log

/-!
# Tasks

A task works on a file system, leaves notes, and ends with a value or with a failure.  What it did
before a failure stays done.  A task is run in surroundings that do not change: the working
directory, the home directory and the build tool.

The build tool is any function on file systems, so what is said of a deployment holds whatever the
tool does.
-/

namespace SyntaxKit

/-- Why a task failed. -/
inductive Failure where
  | file (path : Path) (error : FileError)
  | deployment (step : Deployment.Step) (cause : Deployment.Cause)
  /-- An error in the text of a file that cannot be shown, because it does not lie between
  characters. -/
  | unshowable (path : Path)
deriving DecidableEq, Repr

/-- The text of a failure. -/
def Failure.message : Failure → String
  | .file path error => "I/O error on " ++ toString path ++ ": " ++ error.message
  | .deployment step cause => step.activity ++ " failed: " ++ cause.message
  | .unshowable path => "An error in " ++ toString path ++ " cannot be shown"

/-- What came of running the build tool. -/
inductive ToolResult where
  | notStarted (error : FileError)
  | ended (exit : Deployment.Exit) (complaint : List UInt8)
deriving DecidableEq, Repr

/-- What the build tool does with a subcommand in a directory. -/
abbrev Tool := String → Place → FileSystem → ToolResult × FileSystem

/-- The surroundings of a task. -/
structure Surroundings where
  workingDirectory : Place
  home : Option Path
  tool : Tool

/-- What a task leaves behind for its reader: an event, or a text as it is. -/
inductive Note where
  | event (e : Log.Event)
  | text (s : String)
deriving DecidableEq, Repr

/-- What a task works on, and what it noted so far. -/
structure World where
  files : FileSystem
  notes : List Note := []

/-- A piece of work that ends with a value or a failure. -/
def Task (α : Type) : Type := Surroundings → World → Except Failure α × World

namespace Task

variable {α β : Type}

/-- The task that only ends with a value. -/
def done (a : α) : Task α := fun _ w => (.ok a, w)

/-- The task that only fails. -/
def fail (e : Failure) : Task α := fun _ w => (.error e, w)

/-- A task after another one, if that did not fail. -/
def andThen (t : Task α) (f : α → Task β) : Task β := fun s w =>
  match t s w with
  | (.ok a, w) => f a s w
  | (.error e, w) => (.error e, w)

instance : Monad Task where
  pure := done
  bind := andThen

/-- Looks at the surroundings and the file system. -/
def look (f : Surroundings → FileSystem → α) : Task α := fun s w => (.ok (f s w.files), w)

/-- Notes something. -/
def note (n : Note) : Task Unit := fun _ w => (.ok (), { w with notes := w.notes ++ [n] })

/-- Records an event. -/
def record (e : Log.Event) : Task Unit := note (.event e)

/-- Writes a text. -/
def write (s : String) : Task Unit := note (.text s)

/-- Changes the file system, or leaves it as it is and gives the error. -/
def change (f : Surroundings → FileSystem → Except FileError FileSystem) :
    Task (Option FileError) := fun s w =>
  match f s w.files with
  | .ok files => (.ok none, { w with files })
  | .error e => (.ok (some e), w)

/-- Changes the file system, possibly only in part, and gives the error if there was one. -/
def changePartly (f : Surroundings → FileSystem → α × FileSystem) : Task α := fun s w =>
  let (a, files) := f s w.files
  (.ok a, { w with files })

end Task

end SyntaxKit
