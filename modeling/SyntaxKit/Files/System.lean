import SyntaxKit.Files.Error
import SyntaxKit.Files.Path

/-!
# A file system

A file system is what is to be found at each place.  A place is the list of names that lead to it
from the root; at a place there is a directory, a file with its bytes and the rights to it, or a
symbolic link with the path it stands for.  `FileSystem.entry?` is the view through which a file
system is described: the operations below are pinned down by what they do to it.

A path is followed from a working directory, one step after the other.  A link on the way is
replaced by its target, at most forty times on one path.  A link at the end is followed by reading
and writing, but not by removing.

The operating system has its own say (`FileSystem.Host`).  It can refuse to search or list a
directory, to make or remove an entry and to open a file, and it can break off the writing of a file
when only a part of it is written.  Nothing else is known of it: who runs the program, what rights
there are to directories, and how much room is left is all in its answers.
-/

namespace SyntaxKit

/-- A list of names that leads from the root to an entry. -/
abbrev Place := List Name

namespace Place

/-- The absolute path of a place. -/
def path (p : Place) : Path := Path.ofComponents (.root :: p.map .normal)

/-- The names of a place behind the first `n`, as they are shown. -/
def drop (p : Place) (n : Nat) : List (List Char) := (List.drop n p).map Utf8.decode

end Place

/-- The rights to a file, as the bits that stand for them. -/
structure FileMode where
  bits : Nat
deriving DecidableEq, Repr, Inhabited

namespace FileMode

/-- The rights to a document: its owner may write it, and everybody may read it. -/
def document : FileMode := ⟨0o644⟩

/-- The rights to a program: those to a document, and everybody may run it. -/
def program : FileMode := ⟨0o755⟩

/-- Whether somebody may run a file. -/
def isExecutable (m : FileMode) : Bool := m.bits &&& 0o111 != 0

instance : Coe Bool FileMode := ⟨fun executable => if executable then program else document⟩

end FileMode

/-- What is to be found at a place. -/
inductive FileSystem.Entry where
  | directory
  | file (bytes : List UInt8) (mode : FileMode)
  | link (target : Path)
deriving DecidableEq, Repr

/-- What a program wants to do with what is at a place. -/
inductive FileSystem.Use where
  /-- Look for a name in the directory. -/
  | search
  /-- List the names in the directory. -/
  | list
  /-- Make the entry. -/
  | make
  /-- Remove the entry. -/
  | remove
  /-- Open the file for reading. -/
  | read (mode : FileMode)
  /-- Open the file for writing. -/
  | write (mode : FileMode)
  /-- Change the rights to the file. -/
  | changeMode (mode : FileMode)
deriving DecidableEq, Repr

/-- The operating system that keeps a file system, as far as it has a say. -/
structure FileSystem.Host where
  /-- Why a use of what is at a place is refused, if it is. -/
  refusal? : Place → FileSystem.Use → Option Refusal := fun _ _ => none
  /-- After how many bytes the filling of a file breaks off, and why, if it does.  That can depend on
  what is at all places. -/
  breakOff? : (Place → Option FileSystem.Entry) → Place → List UInt8 → Option (Nat × Refusal) :=
    fun _ _ _ => none
  /-- The rights to a new file. -/
  newMode : FileMode := .document

instance : Inhabited FileSystem.Host := ⟨{}⟩

/-- The entries of a file system by their places, and the operating system that keeps them.  The root
is a directory and not listed. -/
structure FileSystem where hosted ::
  entries : List (Place × FileSystem.Entry)
  host : FileSystem.Host
deriving Inhabited

namespace FileSystem

/-- The file system with some entries, kept by an operating system that refuses nothing. -/
def mk (entries : List (Place × Entry)) : FileSystem := hosted entries {}

/-! ## Entries -/

/-- The entry listed for a place. -/
def find? (place : Place) : List (Place × Entry) → Option Entry
  | [] => none
  | (p, e) :: rest => if p = place then some e else find? place rest

/-- What is at a place. -/
def entry? (fs : FileSystem) (place : Place) : Option Entry :=
  if place = [] then some .directory else find? place fs.entries

/-- A list of entries with another entry at a place. -/
def put (place : Place) (e : Entry) : List (Place × Entry) → List (Place × Entry)
  | [] => [(place, e)]
  | (p, old) :: rest => if p = place then (p, e) :: rest else (p, old) :: put place e rest

/-- The file system with an entry at a place, in place of what was there. -/
def insert (fs : FileSystem) (place : Place) (e : Entry) : FileSystem :=
  { fs with entries := put place e fs.entries }

/-- The file system without the entry at a place. -/
def erase (fs : FileSystem) (place : Place) : FileSystem :=
  { fs with entries := fs.entries.filter fun e => e.1 != place }

/-- The file system without the entry at a place and all that is below it. -/
def eraseTree (fs : FileSystem) (place : Place) : FileSystem :=
  { fs with entries := fs.entries.filter fun e => !place.isPrefixOf e.1 }

/-- The names of the entries of a directory, each once. -/
def names (fs : FileSystem) (place : Place) : List Name :=
  (fs.entries.filterMap fun e =>
    match e.1.getLast? with
    | some name => if e.1.dropLast = place then some name else none
    | none => none).eraseDups

/-- How many names lead to the deepest entry. -/
def depth (fs : FileSystem) : Nat := fs.entries.foldr (fun e deepest => max e.1.length deepest) 0

theorem length_le_depth {fs : FileSystem} {place : Place} {e : Entry}
    (h : fs.entry? place = some e) : place.length ≤ fs.depth := by
  have hlisted (entries : List (Place × Entry)) (hfound : find? place entries = some e) :
      place.length ≤ entries.foldr (fun e deepest => max e.1.length deepest) 0 := by
    induction entries with
    | nil => simp [find?] at hfound
    | cons head rest ih =>
      rw [find?] at hfound
      rw [List.foldr_cons]
      split at hfound
      · next hplace =>
        rw [hplace]
        exact Nat.le_max_left _ _
      · exact Nat.le_trans (ih hfound) (Nat.le_max_right _ _)
  unfold entry? at h
  split at h
  · next hroot =>
    rw [hroot]
    exact Nat.zero_le _
  · exact hlisted _ h

/-! ## Following a path -/

/-- A step from a directory.  To arrive at a directory is to ask for no more than that it is one. -/
inductive Move where
  | arrive
  | stay
  | up
  | enter (name : Name)
deriving DecidableEq, Repr

/-- The step that a stretch between slashes stands for. -/
def move? (part : List UInt8) : Option Move :=
  if part = [] then none
  else if part = [Path.dotByte] then some .stay
  else if part = [Path.dotByte, Path.dotByte] then some .up
  else some (.enter part)

/-- The steps of a path.  A slash at the end asks for a directory. -/
def moves (p : Path) : List Move :=
  (Path.split p.bytes).filterMap move? ++ if p.endsWithSlash then [.arrive] else []

/-- Where the steps of a path begin. -/
def start (workingDirectory : Place) (p : Path) : Place :=
  if p.isAbsolute then [] else workingDirectory

/-- Why a step is refused: the directory that it is taken from has to be searched. -/
def barrier? (fs : FileSystem) (here : Place) (step : Move) : Option Refusal :=
  if step = .arrive then none else fs.host.refusal? here .search

/-- Follows steps from a directory up to the first link that has to be replaced, and calls `onLink`
with the directory of that link, its target and the steps behind it.  The place reached by the last
step need not exist; every place before it has to be a directory that may be searched. -/
def follow (fs : FileSystem) (followLast : Bool)
    (onLink : Place → Path → List Move → Except FileError Place) :
    Place → List Move → Except FileError Place
  | here, [] => .ok here
  | here, step :: rest =>
    match fs.entry? here with
    | none => .error .notFound
    | some (.file ..) | some (.link _) => .error .notDirectory
    | some .directory =>
      match fs.barrier? here step with
      | some r => .error (.refused r)
      | none =>
        match step with
        | .arrive | .stay => follow fs followLast onLink here rest
        | .up => follow fs followLast onLink here.dropLast rest
        | .enter name =>
          let there := here ++ [name]
          match fs.entry? there with
          | some (.link target) =>
            if rest.isEmpty && !followLast then .ok there else onLink here target rest
          | _ => follow fs followLast onLink there rest

/-- Follows steps from a directory and replaces at most `links` links. -/
def followLinks (fs : FileSystem) (followLast : Bool) :
    Nat → Place → List Move → Except FileError Place
  | 0 => follow fs followLast fun _ _ _ => .error .tooManyLinks
  | links + 1 =>
    follow fs followLast fun here target rest =>
      if target.bytes = [] then .error .notFound
      else followLinks fs followLast links (start here target) (moves target ++ rest)

/-- How many links are followed on one path. -/
def maxLinks : Nat := 40

/-- The place that a path leads to, with `followLast` also through a link at its end. -/
def locate (fs : FileSystem) (workingDirectory : Place) (p : Path) (followLast : Bool) :
    Except FileError Place :=
  if p.bytes = [] then .error .notFound
  else followLinks fs followLast maxLinks (start workingDirectory p) (moves p)

/-- The place of what a path leads to, and what is there. -/
def lookup (fs : FileSystem) (workingDirectory : Place) (p : Path) (followLast : Bool) :
    Except FileError (Place × Entry) :=
  match fs.locate workingDirectory p followLast with
  | .error e => .error e
  | .ok place =>
    match fs.entry? place with
    | none => .error .notFound
    | some e => .ok (place, e)

/-- What is gained by a use of what is at a place, unless it is refused. -/
def permit {α : Type} (fs : FileSystem) (place : Place) (use : Use) (a : α) : Except FileError α :=
  match fs.host.refusal? place use with
  | some r => .error (.refused r)
  | none => .ok a

/-! ## Asking -/

variable (fs : FileSystem) (workingDirectory : Place) (p : Path)

/-- Whether there is something at a path. -/
def pathExists : Bool :=
  match fs.lookup workingDirectory p true with
  | .ok _ => true
  | .error _ => false

/-- Whether there is a file at a path. -/
def isFile : Bool :=
  match fs.lookup workingDirectory p true with
  | .ok (_, .file ..) => true
  | _ => false

/-- Whether there is a directory at a path. -/
def isDirectory : Bool :=
  match fs.lookup workingDirectory p true with
  | .ok (_, .directory) => true
  | _ => false

/-- The names in the directory at a path. -/
def list : Except FileError (List Name) :=
  match fs.lookup workingDirectory p true with
  | .error e => .error e
  | .ok (place, .directory) => fs.permit place .list (fs.names place)
  | .ok _ => .error .notDirectory

/-- The bytes of the file at a path. -/
def read : Except FileError (List UInt8) :=
  match fs.lookup workingDirectory p true with
  | .error e => .error e
  | .ok (place, .file bytes mode) => fs.permit place (.read mode) bytes
  | .ok (place, .directory) => do
    fs.permit place .list ()
    throw .isDirectory
  | .ok (_, .link _) => .error .notFound

/-! ## Changing -/

/-- Opens the file at a place for writing, and gives the rights to it.  A file that is not there is
made, with the given rights. -/
def openAt (place : Place) (mode : FileMode) : Except FileError FileMode :=
  match fs.entry? place with
  | none => fs.permit place .make mode
  | some (.file _ old) => fs.permit place (.write old) old
  | some .directory => .error .isDirectory
  | some (.link _) => .error .notFound

/-- Writes bytes to the empty file at a place.  If that breaks off, the file holds what was written
until then. -/
def fill (place : Place) (mode : FileMode) (bytes : List UInt8) : Option FileError × FileSystem :=
  match fs.host.breakOff? fs.entry? place bytes with
  | none => (none, fs.insert place (.file bytes mode))
  | some (n, r) => (some (.refused r), fs.insert place (.file (bytes.take n) mode))

/-- Makes the bytes of the file at a path other ones; the file is made if there is none.  It is emptied
before anything is written. -/
def write (bytes : List UInt8) : Option FileError × FileSystem :=
  match fs.locate workingDirectory p true with
  | .error e => (some e, fs)
  | .ok place =>
    match fs.openAt place fs.host.newMode with
    | .error e => (some e, fs)
    | .ok mode => (fs.insert place (.file [] mode)).fill place mode bytes

/-- Removes the file or the link at a path. -/
def remove : Except FileError FileSystem :=
  match fs.lookup workingDirectory p false with
  | .error e => .error e
  | .ok (place, e) =>
    match fs.permit place .remove (fs.erase place) with
    | .error e => .error e
    | .ok removed => if e = .directory then .error .isDirectory else .ok removed

/-- Makes a directory. -/
def makeDirectory : Except FileError FileSystem :=
  match fs.locate workingDirectory p false with
  | .error e => .error e
  | .ok place =>
    match fs.entry? place with
    | none => fs.permit place .make (fs.insert place .directory)
    | some _ => .error .alreadyExists

/-- Makes a directory after those that it is in.  `above` are the paths above `p`, the nearest
first.  What is a directory already may stay.  The file system is also given when not all could be
made. -/
def makeDirectoriesFrom (fs : FileSystem) (workingDirectory : Place) :
    Path → List Path → Option FileError × FileSystem
  | p, above =>
    if p.bytes = [] then (none, fs)
    else
      match fs.makeDirectory workingDirectory p with
      | .ok fs => (none, fs)
      | .error .notFound =>
        match above with
        | [] => (some .notFound, fs)
        | q :: above =>
          match makeDirectoriesFrom fs workingDirectory q above with
          | (some e, fs) => (some e, fs)
          | (none, fs) =>
            match fs.makeDirectory workingDirectory p with
            | .ok fs => (none, fs)
            | .error e => (if fs.isDirectory workingDirectory p then none else some e, fs)
      | .error e => (if fs.isDirectory workingDirectory p then none else some e, fs)

/-- The paths above a path, the nearest first. -/
def pathsAbove (p : Path) : List Path :=
  let cs := p.components
  (List.range cs.length).reverse.map fun n => Path.ofComponents (cs.take n)

/-- Makes a directory and those that it is in. -/
def makeDirectories : Option FileError × FileSystem :=
  makeDirectoriesFrom fs workingDirectory p (pathsAbove p)

/-- What is known of a copy when both files are open: where they are, the rights to the source, and
those that there were to the target. -/
structure Copying where
  origin : Place
  mode : FileMode
  place : Place
  old : FileMode

/-- Opens the source of a copy for reading and then its target for writing. -/
def openCopy (source target : Path) : Except FileError Copying :=
  match fs.lookup workingDirectory source true with
  | .error e => .error e
  | .ok (origin, .file _ mode) => do
    fs.permit origin (.read mode) ()
    let place ← fs.locate workingDirectory target true
    let old ← fs.openAt place mode
    return { origin, mode, place, old }
  | .ok (origin, .directory) => do
    fs.permit origin .list ()
    throw .notRegular
  | .ok (_, .link _) => .error .notRegular

/-- Fills the target of a copy.  It is emptied or made when both files are open, then it gets the rights
to the source, and only then is the source read; so a file that is copied onto itself ends up empty. -/
def fillCopy (c : Copying) : Option FileError × FileSystem :=
  match fs.host.refusal? c.place (.changeMode c.old) with
  | some r => (some (.refused r), fs.insert c.place (.file [] c.old))
  | none =>
    let emptied := fs.insert c.place (.file [] c.mode)
    match emptied.entry? c.origin with
    | some (.file bytes _) => emptied.fill c.place c.mode bytes
    | _ => (some .notFound, emptied)

/-- Copies a file with the rights to it. -/
def copy (source target : Path) : Option FileError × FileSystem :=
  match fs.openCopy workingDirectory source target with
  | .error e => (some e, fs)
  | .ok c => fs.fillCopy c

end FileSystem

end SyntaxKit
