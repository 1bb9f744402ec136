import SyntaxKit.Task

/-!
# Collecting source files

Source files are named one by one or by the directories they are in.  What is no directory is taken
as it is, even if there is nothing.  In a directory all files are found that have a given extension
in any case and lie in it or below it; links in it are not followed, but the directory itself may be
given by a link.  The first directory that cannot be read ends it.
-/

namespace SyntaxKit

namespace Sources

/-- A letter of the Latin alphabet in lower case; other characters stay. -/
def lowered (text : List Char) : List Char := text.map Char.toLower

/-- Whether a path has an extension, where the case of Latin letters does not count. -/
def hasExtension (extension : List Char) (p : Path) : Bool :=
  match p.extension? with
  | some e => lowered (Utf8.decode e) == lowered extension
  | none => false

/-- What a walk comes upon below a directory, told by the names that lead there: a file, or a directory
that cannot be read. -/
abbrev Encounter := Except (List Name × FileError) (List Name)

/-- What a walk comes upon in a directory, seen from the directory that has it under a name. -/
def Encounter.under (name : Name) : Encounter → Encounter
  | .ok names => .ok (name :: names)
  | .error (names, e) => .error (name :: names, e)

/-- What a walk comes upon in a directory and below it.  The walk goes into what is a directory
itself; it follows no links, so it comes to an end also where links lead in a circle. -/
def walk (fs : FileSystem) (place : Place) : List Encounter :=
  match fs.host.refusal? place .list with
  | some r => [.error ([], .refused r)]
  | none =>
    (fs.names place).flatMap fun name =>
      List.map (Encounter.under name) <|
        match _hentry : fs.entry? (place ++ [name]) with
        | some (.file ..) => [.ok []]
        | some .directory =>
          -- the path of a directory leads through the one that it is in
          match fs.host.refusal? place .search with
          | some r => [.error ([], .refused r)]
          | none => walk fs (place ++ [name])
        | some (.link _) | none => []
termination_by fs.depth - place.length
decreasing_by
  have hdepth := FileSystem.length_le_depth _hentry
  simp only [List.length_append, List.length_singleton] at hdepth ⊢
  omega

/-- The path of a file that a walk from a path comes upon, or a failure. -/
def found (p : Path) : Encounter → Except Failure Path
  | .ok names => .ok (p.descend names)
  | .error (names, e) => .error (.file (p.descend names) e)

/-- The source files that a path names. -/
def expand (s : Surroundings) (fs : FileSystem) (extension : List Char) (p : Path) :
    Except Failure (List Path) :=
  match fs.lookup s.workingDirectory p true with
  | .ok (place, .directory) =>
    match (walk fs place).mapM (found p) with
    | .error e => .error e
    | .ok files => .ok ((files.filter (hasExtension extension)).mergeSort Path.le)
  | _ => .ok [p]

/-- The source files that some paths name, in the order of the paths. -/
def collect (paths : List Path) (extension : List Char) : Task (List Path) :=
  match paths with
  | [] => pure []
  | p :: rest => do
    match ← Task.look fun s fs => expand s fs extension p with
    | .error e => Task.fail e
    | .ok files =>
      let others ← collect rest extension
      pure (files ++ others)

end Sources

end SyntaxKit
