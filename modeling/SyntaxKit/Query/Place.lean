import SyntaxKit.Tree.Node

/-!
# Places in a tree

What a program of a query asks about a visible node: its kind and field, where it stands in the
text, its visible parent, what comes after it among its siblings, and under which fields its own
children hang.  `Tree.places` lists all visible nodes in preorder with this information.

Siblings are the visible nodes with the same visible parent.  A node may be wrapped in invisible
ones; later siblings are then looked for beside the innermost of these nodes that has any.
-/

namespace SyntaxKit

namespace Query

/-- A visible node as a query sees it when it is captured: its number in preorder, and where its
text begins and ends. -/
structure Mark where
  number : Nat
  start : Extent
  stop : Extent
deriving DecidableEq, Repr, Inhabited

/-- A visible node with what a query may ask about it. -/
structure Place where
  mark : Mark
  depth : Nat
  symbol : Symbol
  named : Bool
  missing : Bool
  field : Option String
  /-- The visible parent and its symbol. -/
  parent : Option (Mark × Symbol)
  /-- A sibling follows. -/
  siblingFollows : Bool
  /-- A sibling that stands for a rule of the grammar follows. -/
  namedSiblingFollows : Bool
  /-- A sibling under the same field may follow. -/
  fieldMayFollow : Bool
  /-- The fields under which children hang. -/
  childFields : List String
deriving Inhabited

/-- What stands around a subtree on its way down from its visible parent, level by level: whether it
is an extra, the production and index under which it hangs, and whether visible and named siblings
follow it on this level. -/
structure Level where
  extra : Bool
  production : Nat
  index : Nat
  follows : Bool
  namedFollows : Bool

/-- A subtree on the way to its visible nodes, with the levels up to its visible parent, the
innermost first. -/
structure Approach where
  tree : Tree
  offset : Extent
  depth : Nat
  parent : Option (Mark × Symbol)
  levels : List Level

variable (lang : Language)

/-- Whether a subtree adds visible siblings, and named ones. -/
def siblingsIn (t : Tree) : Bool × Bool :=
  if lang.isVisible t.symbol then (true, lang.isNamed t.symbol)
  else (0 < t.visibleChildren, 0 < t.namedChildren)

/-- Pairs subtrees with whether those behind them add visible and named siblings. -/
def withFollowing : List Tree → List (Tree × Bool × Bool) × Bool × Bool
  | [] => ([], false, false)
  | t :: rest =>
    let (following, follows, namedFollows) := withFollowing rest
    let (own, ownNamed) := siblingsIn lang t
    ((t, follows, namedFollows) :: following, own || follows, ownNamed || namedFollows)

/-- The approaches to the children of a node. -/
def approaches (production : Nat) (depth : Nat) (parent : Option (Mark × Symbol))
    (above : List Level) : List (Tree × Bool × Bool) → Extent → Nat → List Approach
  | [], _, _ => []
  | (t, follows, namedFollows) :: rest, offset, index =>
    let level : Level := ⟨t.isExtra, production, index, follows, namedFollows⟩
    ⟨t, offset, depth, parent, level :: above⟩
      :: approaches production depth parent above rest (offset + t.totalSize)
        (if t.isExtra then index else index + 1)

/-- The field of a node, given by the innermost level that has one, with the levels from that one
on. -/
def fieldFrom : List Level → Option (String × List Level)
  | [] => none
  | l :: rest =>
    match if l.extra then none else lang.fieldOf? l.production l.index with
    | some f => some (f, l :: rest)
    | none => fieldFrom rest

/-- Whether another child of the production further on may hang under a field. -/
def fieldRecurs (field : String) (l : Level) : Bool :=
  !l.extra && (lang.productions.getD l.production []).any fun (i, f) =>
    l.index < i && lang.fields[f]? == some field

/-- The fields of the children of a node that are there to see. -/
def childFields (production : Nat) : List Tree → Nat → List String
  | [], _ => []
  | t :: rest, index =>
    if t.isExtra then childFields production rest index
    else
      let here := match lang.fieldOf? production index with
        | some f => if lang.isVisible t.symbol || 0 < t.visibleChildren then [f] else []
        | none => []
      here ++ childFields production rest (index + 1)

/-- The place at the end of an approach. -/
def Approach.place (a : Approach) (number : Nat) : Place :=
  let start := a.offset + a.tree.padding
  let follows := a.levels.find? (·.follows)
  let field := fieldFrom lang a.levels
  { mark := ⟨number, start, start + a.tree.size⟩
    depth := a.depth
    symbol := a.tree.symbol
    named := lang.isNamed a.tree.symbol
    missing := a.tree.isMissing
    field := field.map (·.1)
    parent := a.parent
    siblingFollows := follows.isSome
    namedSiblingFollows := (follows.map (·.namedFollows)).getD false
    fieldMayFollow := match field with
      | some (f, levels) => levels.any (fieldRecurs lang f)
      | none => false
    childFields := childFields lang a.tree.production a.tree.children 0 }

/-- The approaches to what is below a node that is visible. -/
def Approach.below (a : Approach) (number : Nat) : List Approach :=
  let mark := (a.place lang number).mark
  approaches a.tree.production (a.depth + 1) (some (mark, a.tree.symbol)) []
    (withFollowing lang a.tree.children).1 a.offset 0

/-- The approaches that take the place of one whose own node is invisible. -/
def Approach.inside (a : Approach) : List Approach :=
  approaches a.tree.production a.depth a.parent a.levels (withFollowing lang a.tree.children).1
    a.offset 0

theorem map_fst_withFollowing (ts : List Tree) : (withFollowing lang ts).1.map (·.1) = ts := by
  induction ts with
  | nil => rfl
  | cons t ts ih =>
    rw [withFollowing]
    exact congrArg (t :: ·) ih

theorem map_tree_approaches (production depth : Nat) (parent : Option (Mark × Symbol))
    (above : List Level) (labelled : List (Tree × Bool × Bool)) (offset : Extent) (index : Nat) :
    (approaches production depth parent above labelled offset index).map (·.tree)
      = labelled.map (·.1) := by
  induction labelled generalizing offset index with
  | nil => rfl
  | cons x rest ih => rw [approaches, List.map_cons, List.map_cons, ih]

/-- Lists the places that some approaches lead to, and all below them, in preorder; `seen` holds those
so far, the last one first.  What has no parent always has a place. -/
def collectPlaces (sites : List Approach) (number : Nat) (seen : List Place) : List Place :=
  match sites with
  | [] => seen.reverse
  | a :: rest =>
    if a.parent.isNone || lang.isVisible a.tree.symbol then
      collectPlaces (a.below lang number ++ rest) (number + 1) (a.place lang number :: seen)
    else collectPlaces (a.inside lang ++ rest) number seen
termination_by Tree.weights (sites.map (·.tree))
decreasing_by
  all_goals
    have := a.tree.weight_pos
    have := a.tree.weights_children_lt
    simp [Approach.below, Approach.inside, map_tree_approaches, map_fst_withFollowing]
    omega

end Query

/-- The visible nodes of a tree in preorder, as a query sees them. -/
def Tree.places (lang : Language) (t : Tree) : List Query.Place :=
  Query.collectPlaces lang [⟨t, Extent.zero, 0, none, []⟩] 0 []

end SyntaxKit
