import SyntaxKit.Shell.Reader
import SyntaxKit.Shell.Run
import SyntaxKit.Task

/-!
# Scripts as build tools

A build tool can be a script in the file system.  It is started if it is an executable file, and
gets the subcommand as its only argument.
-/

namespace SyntaxKit

namespace Shell

/-- The programs that run a script, as the first line of the script names them. -/
def interpreters : List (List Char) :=
  ["#!/bin/sh", "#!/bin/bash", "#!/bin/dash"].map String.toList

/-- Whether the first line of a script names a program that is there. -/
def hasInterpreter (text : List Char) : Bool :=
  !("#!".toList.isPrefixOf text) || interpreters.any fun i => i.isPrefixOf text

/-- The status of a script that cannot be read. -/
def unreadableStatus : Nat := 2

/-- Runs the text of a script with a subcommand in a directory. -/
def runText (program : Path) (text : List Char) (subcommand : String) (directory : Place)
    (fs : FileSystem) : ToolResult × FileSystem :=
  match read? text with
  | none => (.ended (.status unreadableStatus) [], fs)
  | some script =>
    let state : State :=
      { files := fs, directory, name := program.shown, arguments := [subcommand.toList] }
    let state := run state script
    (.ended state.ending state.complaints, state.files)

/-- The build tool that is the script at a path. -/
def tool (program : Path) : Tool := fun subcommand directory fs =>
  match fs.lookup [] program true with
  | .error e => (.notStarted e, fs)
  | .ok (_, .file bytes mode) =>
    let text := Utf8.decode bytes
    if !mode.isExecutable then (.notStarted (.refused .permissionDenied), fs)
    else if hasInterpreter text then runText program text subcommand directory fs
    else (.notStarted .notFound, fs)
  | .ok _ => (.notStarted (.refused .permissionDenied), fs)

end Shell

end SyntaxKit
