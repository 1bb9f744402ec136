import SyntaxKit.Number.Binary
import SyntaxKit.Text.Blank
import SyntaxKit.Text.Source
import SyntaxKit.Tree.Node

/-!
# Syntax errors of a text

The errors of a text are read off its tree: a node in error is text that did not fit, a missing
token is one that the parser had to make up.  An error is reported once, and what is inside it is
not reported again.

An error has a range of bytes.  To be shown it is clamped into the text and made at least one byte
wide; the error ratio of a text is the share of nodes in error among all visible nodes.
-/

namespace SyntaxKit

/-- A problem with a text. -/
inductive SyntaxError.Cause where
  /-- The text did not fit the grammar. -/
  | unexpected
  /-- A token of the given kind is missing. -/
  | missing (kind : String)
deriving DecidableEq, Repr, Inhabited

/-- A syntax error: its cause, its range in bytes, the point where it starts, and its message. -/
structure SyntaxError where
  cause : SyntaxError.Cause
  first : Nat
  last : Nat
  start : Point
  message : String
deriving DecidableEq, Repr, Inhabited

/-- How much of the offending text a message quotes. -/
def SyntaxError.maxQuoted : Nat := 32

namespace SyntaxError

/-- A text cut off behind a number of characters, with an ellipsis if there was more. -/
def cutOff (text : List Char) (n : Nat) : List Char :=
  if n < text.length then text.take n ++ ['…'] else text

/-- The message for text that did not fit: its first line, without blanks before it. -/
def unexpectedMessage (text : List Char) : String :=
  match Text.trim text with
  | [] => "unexpected input"
  | trimmed => "unexpected `" ++ String.ofList (cutOff (Text.firstLine trimmed) maxQuoted) ++ "`"

/-- The error at a node of the tree of a source. -/
def ofNode (lang : Language) (source : Source) (n : Node) : SyntaxError :=
  let first := n.start.bytes
  let last := n.stop.bytes
  if n.isMissing then
    let kind := n.kind lang
    ⟨.missing kind, first, last, n.start.point, "missing `" ++ kind ++ "`"⟩
  else
    let text := (Text.take? (source.suffixAt first) (last - first)).getD []
    ⟨.unexpected, first, last, n.start.point, unexpectedMessage text⟩

end SyntaxError

namespace Tree

/-- Whether a node is a problem. -/
def isProblem (n : Node) : Bool := n.isError || n.isMissing

/-- The problems found so far, the last one first, with a node if it is one. -/
def addProblem (found : List Node) (n : Node) : List Node :=
  if isProblem n then n :: found else found

/-- The nodes that are problems and not inside another one, in preorder.  Only subtrees that are
known to contain errors are searched. -/
def problems (lang : Language) (t : Tree) : List Node :=
  if t.root.hasError then
    ((Cursor.atRoot t).travel lang (fun n => !isProblem n && n.hasError) addProblem []).reverse
  else []

/-- The syntax errors of a text with a given tree, in the order of the text. -/
def syntaxErrors (lang : Language) (t : Tree) (text : List Char) : List SyntaxError :=
  match t.problems lang with
  | [] => []
  | ns =>
    let source := Source.ofText text
    ns.map (SyntaxError.ofNode lang source)

end Tree

/-- A share of the nodes of a tree. -/
structure ErrorRatio where
  errors : Nat
  total : Nat
deriving DecidableEq, Repr, Inhabited

/-- The double nearest to an error ratio. -/
def ErrorRatio.rounded (r : ErrorRatio) : Dyadic := Dyadic.ofQuotient r.errors r.total

/-- The share when one more node is counted. -/
def ErrorRatio.count (r : ErrorRatio) (n : Node) : ErrorRatio :=
  ⟨if n.isError then r.errors + 1 else r.errors, r.total + 1⟩

namespace Tree

/-- The share of nodes in error among all visible nodes. -/
def errorRatio (lang : Language) (t : Tree) : ErrorRatio :=
  (Cursor.atRoot t).travel lang (fun _ => true) ErrorRatio.count ⟨0, 0⟩

end Tree

/-! ## Spans for display -/

namespace Span

/-- The largest offset that can be counted. -/
def maxOffset : Nat := Nat.pow 2 64 - 1

/-- A span made at least one byte wide, unless its start is the largest offset. -/
def widen? (first last : Nat) : Option (Nat × Nat) :=
  if first < maxOffset then some (first, max last (first + 1)) else none

/-- A span clamped into a text of the given length and made at least one byte wide. -/
def display (first last length : Nat) : Nat × Nat :=
  let first := min first (length - 1)
  (first, max (min last length) (first + 1))

end Span

end SyntaxKit
