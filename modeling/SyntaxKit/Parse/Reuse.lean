import SyntaxKit.Tree.Basic

/-!
# Walking an earlier tree

When a text has been edited, the tree of the text before the edit is walked beside the new parse,
so that its unchanged parts can be taken over.  A `Tree.Walk` is a place in that tree: the subtree
under consideration, the siblings to its right, its offset, and the same for each node above it.
-/

namespace SyntaxKit

/-- The first of a tree, its first child, the first child of that, and so on, that is not too large;
a tree without children is never too large. -/
def Tree.firstPart (tooLarge : Tree → Bool) : Tree → Tree
  | .token k => .token k
  | .branch b [] => .branch b []
  | .branch b (first :: rest) =>
    if tooLarge (.branch b (first :: rest)) then firstPart tooLarge first
    else .branch b (first :: rest)

/-- A subtree, its siblings to the right, and the offset at which its padding begins. -/
structure Tree.Station where
  tree : Tree
  right : List Tree
  offset : Nat
deriving Inhabited

/-- A place in a tree, the innermost node first; the empty walk is past the end of the tree. -/
abbrev Tree.Walk := List Tree.Station

namespace Tree.Walk

/-- Goes down to the first child, if there is one. -/
def descend? (w : Walk) : Option Walk :=
  match w with
  | [] => none
  | s :: _ =>
    match s.tree.children with
    | [] => none
    | first :: right => some (⟨first, right, s.offset⟩ :: w)

/-- Goes to the next subtree to the right of the nearest node that has one. -/
def nextFrom (offset : Nat) : Walk → Walk
  | [] => []
  | s :: above =>
    match s.right with
    | [] => nextFrom offset above
    | next :: right => ⟨next, right, offset⟩ :: above

/-- Goes on behind the subtree under consideration. -/
def advance (w : Walk) : Walk :=
  match w with
  | [] => []
  | s :: _ => nextFrom (s.offset + s.tree.totalSize.bytes) w

/-- Goes down along first children for as long as a condition holds of the subtree. -/
def descendWhile (p : Tree → Bool) : Nat → Walk → Walk
  | 0, w => w
  | fuel + 1, w =>
    match w with
    | [] => w
    | s :: _ =>
      if p s.tree then
        match descend? w with
        | some w => descendWhile p fuel w
        | none => w
      else w

/-- How far down the first children of a tree go. -/
def maxDepth : Nat := 4294967295

/-- Goes on behind the first token of the subtree under consideration. -/
def advancePastFirstToken (w : Walk) : Walk :=
  advance (descendWhile (fun _ => true) maxDepth w)

/-- The walk that begins in front of the children of a tree.  The root itself is never taken over,
because the end of the text and everything beside the grammar has been put into it. -/
def start (t : Tree) : Walk := (descend? [⟨t, [], 0⟩]).getD []

end Tree.Walk

end SyntaxKit
