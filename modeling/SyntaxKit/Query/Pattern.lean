import SyntaxKit.Language.Basic

/-!
# Patterns

A pattern describes nodes of a syntax tree: their kinds, the fields under which they hang, and what
stands below and beside them.  This file holds the patterns as they are written; the program that
looks for them in a tree is made from them in `SyntaxKit.Query.Program`.
-/

namespace SyntaxKit.Query

/-- What a pattern asks of the kind of a node. -/
structure NodeTest where
  /-- The symbol of the node; any symbol will do if there is none. -/
  symbol : Option Symbol
  /-- The node has to stand for a rule of the grammar; only asked where any symbol will do. -/
  namedOnly : Bool
  /-- The node has to be one that the text lacks. -/
  missing : Bool
deriving DecidableEq, Repr, Inhabited

/-- What may follow a pattern. -/
inductive Suffix where
  | oneOrMore
  | zeroOrMore
  | optional
  | capture (index : Nat)
deriving DecidableEq, Repr

/-- A pattern; `position` is the byte offset at which it begins in the text of the query. -/
inductive Pattern where
  /-- A node, the fields it must not have, and its children; `closed` says that nothing may follow
  the last child. -/
  | node (position : Nat) (test : NodeTest) (absent : List String) (children : List Pattern)
      (closed : Bool) (suffixes : List Suffix)
  /-- Patterns for siblings. -/
  | group (position : Nat) (members : List Pattern) (suffixes : List Suffix)
  /-- Patterns of which one has to fit. -/
  | choice (position : Nat) (branches : List Pattern) (suffixes : List Suffix)
  /-- A pattern for a node that hangs under a field. -/
  | field (position : Nat) (name : String) (inner : Pattern)
  /-- A pattern for a node that follows the sibling before it immediately. -/
  | anchored (inner : Pattern)
  /-- A condition on captured text; it asks nothing of the tree. -/
  | condition (position : Nat)
deriving Repr, Inhabited

end SyntaxKit.Query
