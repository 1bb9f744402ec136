import SyntaxKit.Tree.Node

/-!
# Trees as symbolic expressions

The text form of a tree shows the nodes that stand for rules of the grammar, nested in parentheses
and with their fields: `(source_file (call function: (name)))`.  A token that the text lacks is
shown as `(MISSING ")")`, or without quotes if it stands for a rule.  Text in which no token could
be found is shown by the character at which reading failed, as in `(UNEXPECTED '@')`.
-/

namespace SyntaxKit

namespace Tree

/-- How the character at which reading failed is shown: printable ASCII in quotes, some controls by
their escapes, everything else as a number. -/
def culpritText (c : Char) : String :=
  if c = '\x00' then "'\\0'"
  else if c = '\n' then "'\\n'"
  else if c = '\t' then "'\\t'"
  else if c = '\r' then "'\\r'"
  else if 32 ≤ c.toNat && c.toNat < 127 then "'" ++ c.toString ++ "'"
  else toString c.toNat

/-- A step of writing: literal text, or a subtree with the field before it. -/
inductive Piece where
  | text (s : String)
  | tree (t : Tree) (field : Option String)

variable (lang : Language)

/-- The pieces of the children of a node. -/
def childPieces (production : Nat) (field : Option String) : List Tree → Nat → List Piece
  | [], _ => []
  | child :: rest, index =>
    if child.isExtra then .tree child none :: childPieces production field rest index
    else
      .tree child ((lang.fieldOf? production index).orElse fun _ => field)
        :: childPieces production field rest (index + 1)

/-- Whether a subtree has parentheses of its own. -/
def isWritten (t : Tree) : Bool :=
  t.isMissing || (lang.isVisible t.symbol && lang.isNamed t.symbol)

/-- The opening parenthesis and what names the node. -/
def opening (t : Tree) : String :=
  let name := lang.symbolName t.symbol
  match t with
  | token k =>
    if k.missing then
      if lang.isNamed k.symbol then "(MISSING " ++ name else "(MISSING \"" ++ name ++ "\""
    else if t.isError && 0 < k.size.bytes then "(UNEXPECTED " ++ culpritText k.culprit
    else "(" ++ name
  | branch .. => "(" ++ name

/-- The pieces of a subtree; the root is not set off from what is before it. -/
def pieces (t : Tree) (field : Option String) (isRoot : Bool) : List Piece :=
  if t.isWritten lang then
    let lead :=
      if isRoot then ""
      else match field with
        | some f => " " ++ f ++ ": "
        | none => " "
    .text (lead ++ t.opening lang)
      :: childPieces lang t.production none t.children 0 ++ [.text ")"]
  else childPieces lang t.production field t.children 0

/-- Writes pieces one after the other. -/
def write : Nat → List Piece → String → String
  | 0, _, out => out
  | _, [], out => out
  | fuel + 1, .text s :: rest, out => write fuel rest (out ++ s)
  | fuel + 1, .tree t field :: rest, out => write fuel (t.pieces lang field false ++ rest) out

/-- The tree as a symbolic expression. -/
def expression (t : Tree) : String := write lang maxSteps (t.pieces lang none true) ""

end Tree

end SyntaxKit
