import SyntaxKit.Files.Path
import SyntaxKit.Parse.Run
import SyntaxKit.Text.Index
import SyntaxKit.Text.Lines
import SyntaxKit.Tree.Edit

/-!
# Documents

A document is a text together with its syntax tree, and remembers the file it was opened from.
Replacing a stretch of the text parses it again, taking over what has not changed; the stretch is
given in bytes and has to lie between character boundaries, and if it does not, the document stays
as it was.
-/

namespace SyntaxKit

/-- Why a stretch of a document cannot be replaced. -/
inductive EditError where
  /-- The stretch is not inside the document. -/
  | outside (start oldStop length : Nat)
  /-- An end of the stretch is inside a character. -/
  | insideCharacter (offset : Nat)
deriving DecidableEq, Repr

/-- What is wrong with the stretch. -/
def EditError.reason : EditError → String
  | .outside start oldStop length =>
    "range " ++ toString start ++ ".." ++ toString oldStop
      ++ " is outside the document (length " ++ toString length ++ ")"
  | .insideCharacter offset =>
    "byte offset " ++ toString offset ++ " is not on a character boundary"

/-- The text of the error. -/
def EditError.message (e : EditError) : String := "Invalid edit: " ++ e.reason

/-- A text with its tree, and the path of the file it was opened from if there is one. -/
structure Document where
  path : Option Path
  text : List Char
  tree : Tree
deriving Inhabited

namespace Document

variable (lang : Language)

/-- The document of a text. -/
def ofText (text : List Char) : Document := ⟨none, text, lang.parse text⟩

/-- The document of a file with the given text. -/
def ofFile (path : Path) (text : List Char) : Document := ⟨some path, text, lang.parse text⟩

/-- The index of the character that begins at a byte offset. -/
def boundaryIndex (text : List Char) (offset : Nat) : Except EditError Nat :=
  let index := Text.indexOf text offset
  if Text.offsetOf text index = offset then .ok index else .error (.insideCharacter offset)

/-- The indices of the characters at the ends of a stretch. -/
def stretch (text : List Char) (start oldStop : Nat) : Except EditError (Nat × Nat) :=
  let length := Text.byteLength text
  if oldStop < start || length < oldStop then .error (.outside start oldStop length)
  else
    match boundaryIndex text start with
    | .error e => .error e
    | .ok first =>
      match boundaryIndex text oldStop with
      | .error e => .error e
      | .ok last => .ok (first, last)

/-- The change that replacing a stretch by `new` is to a tree. -/
def change (text : List Char) (start oldStop : Nat) (new : List Char) : Change :=
  let startPoint := Text.pointAt text start
  { start := ⟨start, startPoint⟩
    oldStop := ⟨oldStop, Text.pointAt text oldStop⟩
    newStop := ⟨start + Text.byteLength new, startPoint.after new⟩ }

/-- Replaces the bytes from `start` up to `oldStop` by `new` and parses again. -/
def replace (d : Document) (start oldStop : Nat) (new : List Char) :
    Except EditError Document :=
  match stretch d.text start oldStop with
  | .error e => .error e
  | .ok (first, last) =>
    let text := Text.insert (Text.remove d.text first last) first new
    let old := d.tree.edit (change d.text start oldStop new)
    .ok { d with text, tree := lang.reparse old text }

/-- Replaces a stretch in place: the document as it is afterwards, and why it is as it was if the
stretch could not be replaced. -/
def edit (d : Document) (start oldStop : Nat) (new : List Char) : Document × Option EditError :=
  match d.replace lang start oldStop new with
  | .ok d' => (d', none)
  | .error e => (d, some e)

end Document

end SyntaxKit
