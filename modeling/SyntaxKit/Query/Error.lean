import SyntaxKit.Text.Alphanumeric
import SyntaxKit.Text.Lines
import SyntaxKit.Text.Source

/-!
# Errors in queries

A text that is no query is refused with a cause, the place where reading stopped, and a detail.  An
unknown name is shown by itself; for a query that is malformed or impossible the detail is the line
of the text with a caret under the place.
-/

namespace SyntaxKit

/-- Why a text is refused as a query. -/
inductive QueryError.Cause where
  /-- The text does not follow the rules of the query language. -/
  | malformed
  /-- No node has the kind. -/
  | unknownKind
  /-- No field has the name. -/
  | unknownField
  /-- A condition uses a capture that no pattern makes. -/
  | unknownCapture
  /-- A condition has the wrong arguments. -/
  | condition
  /-- No tree of the language fits the pattern. -/
  | impossible
deriving DecidableEq, Repr

/-- A refusal: its cause, the place in the text as a row, a column in bytes and a byte offset, and
what there is to say about it. -/
structure QueryError where
  cause : QueryError.Cause
  row : Nat
  column : Nat
  offset : Nat
  detail : String
deriving DecidableEq, Repr

namespace QueryError

/-- The words before the detail. -/
def Cause.heading : Cause → String
  | .malformed => "Invalid syntax:\n"
  | .unknownKind => "Invalid node type "
  | .unknownField => "Invalid field name "
  | .unknownCapture => "Invalid capture name "
  | .condition => "Invalid predicate: "
  | .impossible => "Impossible pattern:\n"

/-- What is wrong with the text and where; row and column are counted from one. -/
def reason (e : QueryError) : String :=
  "Query error at " ++ toString (e.row + 1) ++ ":" ++ toString (e.column + 1) ++ ". "
    ++ e.cause.heading ++ e.detail

/-- The text of the error. -/
def message (e : QueryError) : String := "Invalid query: " ++ e.reason

/-- The line that holds an offset, if there is one, with its row and the offset at which it starts.
A line is taken to be one byte longer than its text. -/
def lineAt (offset : Nat) : List (List Char) → Nat → Nat → Option (List Char) × Nat × Nat
  | [], row, start => (none, row, start)
  | line :: rest, row, start =>
    let stop := start + Text.byteLength line + 1
    if offset < stop then (some line, row, start) else lineAt offset rest (row + 1) stop

/-- The quoted text up to the quote that ends it; a backslash makes a quote part of the text. -/
def quotedName : List Char → Bool → List Char
  | [], _ => []
  | c :: rest, escaped =>
    if c = '"' && !escaped then []
    else c :: quotedName rest (c = '\\' && !escaped)

/-- The name at the start of a text; `quoted` says that it is between quotes. -/
def nameAt (quoted : Bool) (text : List Char) : List Char :=
  if quoted then quotedName text false
  else text.takeWhile fun c => Text.isAlphanumeric c || c == '_' || c == '-'

/-- What there is to say about an error at an offset of `text`. -/
def detailAt (text : List Char) (cause : Cause) (offset lineStart : Nat)
    (line : Option (List Char)) : String :=
  match cause with
  | .unknownKind | .unknownField | .unknownCapture =>
    let quoted := 0 < offset && ((Text.take? text offset).bind (·.getLast?)) == some '"'
    String.ofList (nameAt quoted ((Text.drop? text offset).getD []))
  | _ =>
    match line with
    | some line =>
      String.ofList (line ++ '\n' :: List.replicate (offset - lineStart) ' ' ++ ['^'])
    | none => "Unexpected EOF"

/-- The error with a cause at a byte offset of a text. -/
def locate (text : List Char) (cause : Cause) (offset : Nat) : QueryError :=
  let (line, row, start) := lineAt offset (Text.lines text) 0 0
  ⟨cause, row, offset - start, offset, detailAt text cause offset start line⟩

end QueryError

end SyntaxKit
