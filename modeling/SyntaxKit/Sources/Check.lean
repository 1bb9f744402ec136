import SyntaxKit.Diagnostics.SyntaxError
import SyntaxKit.Document
import SyntaxKit.Number.Decimal
import SyntaxKit.Number.Shortest
import SyntaxKit.Parse.Run
import SyntaxKit.Task
import SyntaxKit.Text.Utf8

/-!
# Checking source files

A file is opened as a document as it is, and only if it is text.  To be checked a file need not be
text, since bytes that are none are shown by a replacement character, and its lines may also end
with `\r\n`.  A checked file passes a threshold if its share of nodes in error is not above it; a
threshold that is not positive asks for no errors at all.
-/

namespace SyntaxKit

namespace Sources

/-- A source file that was opened. -/
structure OpenFile where
  path : Path
  document : Document

/-- A source file that was checked. -/
structure CheckedFile where
  path : Path
  text : List Char
  errors : List SyntaxError
  ratio : ErrorRatio
deriving DecidableEq, Repr

/-- Whether a checked file passes a threshold. -/
def CheckedFile.passes (f : CheckedFile) (threshold : Double) : Bool :=
  match threshold with
  | .finite value =>
    if value ≤ 0 then f.errors.isEmpty
    else mkRat f.ratio.rounded.numerator (Nat.pow 2 f.ratio.rounded.shift) ≤ value
  | .infinite negative => if negative then f.errors.isEmpty else true
  | .notANumber => false

/-- A text in which every `\r\n` is a `\n`. -/
def unifyLineEnds : List Char → List Char
  | '\r' :: '\n' :: t => '\n' :: unifyLineEnds t
  | c :: t => c :: unifyLineEnds t
  | [] => []

/-- The bytes of a source file. -/
def readBytes (p : Path) : Task (List UInt8) := do
  match ← Task.look fun s fs => fs.read s.workingDirectory p with
  | .ok bytes => pure bytes
  | .error e => Task.fail (.file p e)

variable (lang : Language)

/-- Opens a source file as a document. -/
def openFile (p : Path) : Task OpenFile := do
  let bytes ← readBytes p
  match Utf8.decode? bytes with
  | none => Task.fail (.file p .invalidDocument)
  | some text =>
    Task.record ⟨.debug, "harneet::document", "Parsed document",
      [("path", toString p), ("bytes", toString bytes.length)]⟩
    pure ⟨p, Document.ofFile lang p text⟩

/-- What checking finds in the bytes of a file. -/
def checkBytes (p : Path) (bytes : List UInt8) : CheckedFile :=
  let text := unifyLineEnds (Utf8.decode bytes)
  let tree := lang.parse text
  { path := p, text, errors := tree.syntaxErrors lang text, ratio := tree.errorRatio lang }

/-- Checks a source file. -/
def check (p : Path) : Task CheckedFile := do
  let bytes ← readBytes p
  let f := checkBytes lang p bytes
  Task.record ⟨.debug, "harneet::check", "Checked file",
    [("path", toString p), ("errors", toString f.errors.length),
      ("error_ratio", f.ratio.rounded.toShortest)]⟩
  pure f

end Sources

end SyntaxKit
