import SyntaxKit.Tree.Balance

/-!
# Visible nodes

A syntax tree contains nodes that only serve the grammar.  Its visible nodes are the others, with
the places in the text at which they stand, the fields under which they hang, and their depth below
each other.  `Tree.nodes` lists them in preorder: every node before its children, and children from
left to right.  `Tree.nodesWithin` does the same but goes only into the nodes it is told to.

A `Tree.Cursor` stands on one of these nodes and moves to its first child, its next sibling or its
parent.  `Tree.Cursor.travel` goes over a tree in such steps.
-/

namespace SyntaxKit

/-- A visible node: how deep it is, its field, its subtree, and where its text begins. -/
structure Node where
  depth : Nat
  field : Option String
  tree : Tree
  start : Extent
deriving Inhabited

namespace Node

variable (lang : Language) (n : Node)

/-- The name of the node's kind. -/
def kind : String := lang.symbolName n.tree.symbol

/-- Where the text of the node ends. -/
def stop : Extent := n.start + n.tree.size

/-- Whether the node stands for a rule of the grammar. -/
def isNamed : Bool := lang.isNamed n.tree.symbol

/-- Whether the node holds text that could not be parsed. -/
def isError : Bool := n.tree.isError

/-- Whether the node is a token that the text lacks. -/
def isMissing : Bool := n.tree.isMissing

/-- Whether the node stands beside the grammar. -/
def isExtra : Bool := n.tree.isExtra

/-- Whether there is an error in the node or it is one. -/
def hasError : Bool := 0 < n.tree.errorCost

end Node

namespace Tree

/-- A subtree on the way to its visible nodes: where its padding begins, the depth of the nodes to
come, and the field that it hands to its first visible nodes. -/
structure Site where
  tree : Tree
  offset : Extent
  depth : Nat
  field : Option String

variable (lang : Language)

/-- The sites of the children of a node, from a position on; `index` counts children that are not
extras, and `field` is what a child without a field of its own is given. -/
def childSites (production : Nat) (depth : Nat) (field : Option String) :
    List Tree → Extent → Nat → List Site
  | [], _, _ => []
  | child :: rest, offset, index =>
    if child.isExtra then
      ⟨child, offset, depth, none⟩
        :: childSites production depth field rest (offset + child.totalSize) index
    else
      ⟨child, offset, depth, (lang.fieldOf? production index).orElse fun _ => field⟩
        :: childSites production depth field rest (offset + child.totalSize) (index + 1)

/-- The production of a node; a token has none. -/
def production : Tree → Nat
  | token _ => 0
  | branch b _ => b.production

/-- The node at a site. -/
def Site.node (s : Site) : Node := ⟨s.depth, s.field, s.tree, s.offset + s.tree.padding⟩

/-- The sites below a site whose own node is visible. -/
def Site.below (s : Site) : List Site :=
  childSites lang s.tree.production (s.depth + 1) none s.tree.children s.offset 0

/-- The sites that take the place of a site whose own node is invisible. -/
def Site.inside (s : Site) : List Site :=
  childSites lang s.tree.production s.depth s.field s.tree.children s.offset 0

theorem map_tree_childSites (production depth : Nat) (field : Option String) (ts : List Tree)
    (offset : Extent) (index : Nat) :
    (childSites lang production depth field ts offset index).map (·.tree) = ts := by
  induction ts generalizing offset index with
  | nil => rfl
  | cons t ts ih =>
    rw [childSites]
    split <;> simp [ih]

/-- Lists the visible nodes of a list of sites in preorder, going only into those that `enter`
accepts. -/
def visit (enter : Node → Bool) (sites : List Site) (seen : List Node) : List Node :=
  match sites with
  | [] => seen.reverse
  | s :: rest =>
    if lang.isVisible s.tree.symbol then
      let n := s.node
      if enter n then visit enter (s.below lang ++ rest) (n :: seen)
      else visit enter rest (n :: seen)
    else visit enter (s.inside lang ++ rest) seen
termination_by weights (sites.map (·.tree))
decreasing_by
  all_goals
    have := s.tree.weight_pos
    have := s.tree.weights_children_lt
    simp [Site.below, Site.inside, map_tree_childSites]
    omega

/-- The visible nodes in preorder, without those below nodes that `enter` refuses.  The root is
always visible. -/
def nodesWithin (enter : Node → Bool) (t : Tree) : List Node :=
  let root : Site := ⟨t, Extent.zero, 0, none⟩
  if enter root.node then visit lang enter (root.below lang) [root.node]
  else [root.node]

/-- The visible nodes in preorder. -/
def nodes (t : Tree) : List Node := t.nodesWithin lang fun _ => true

/-- The visible node at the root. -/
def root (t : Tree) : Node := ⟨0, none, t, t.padding⟩

/-! ## Cursors -/

/-- A cursor on a visible node: the site of the node, the sites after it that are below the same
visible node, and the visible nodes above it, each with the sites after it. -/
structure Cursor where
  site : Site
  after : List Site
  above : List (Site × List Site)

namespace Cursor

/-- The cursor on the root of a tree. -/
def atRoot (t : Tree) : Cursor := ⟨⟨t, Extent.zero, 0, none⟩, [], []⟩

/-- The first visible node of some sites, and the sites after it.  What is in an invisible node
takes its place. -/
def first? (sites : List Site) : Option (Site × List Site) :=
  match sites with
  | [] => none
  | s :: rest =>
    if lang.isVisible s.tree.symbol then some (s, rest) else first? (s.inside lang ++ rest)
termination_by weights (sites.map (·.tree))
decreasing_by
  have := s.tree.weights_children_lt
  simp [Site.inside, map_tree_childSites]
  omega

/-- The cursor on the first child, if there is a child. -/
def firstChild? (c : Cursor) : Option Cursor :=
  (first? lang (c.site.below lang)).map fun found =>
    ⟨found.1, found.2, (c.site, c.after) :: c.above⟩

/-- The cursor on the next sibling, if there is one. -/
def nextSibling? (c : Cursor) : Option Cursor :=
  (first? lang c.after).map fun found => ⟨found.1, found.2, c.above⟩

/-- The cursor on the parent, unless it is on the root. -/
def parent? (c : Cursor) : Option Cursor :=
  match c.above with
  | [] => none
  | (s, after) :: above => some ⟨s, after, above⟩

/-- Leaves a node and all that is below it: for its next sibling, or for that of the nearest node
above it that has one. -/
def leave? (c : Cursor) : Option Cursor :=
  match c.nextSibling? lang with
  | some next => some next
  | none =>
    match _hparent : c.parent? with
    | some above => leave? above
    | none => none
termination_by c.above.length
decreasing_by
  obtain ⟨s, after, _ | ⟨up, above⟩⟩ := c
  · cases _hparent
  · obtain rfl := Option.some.inj _hparent
    simp

theorem leave?_of_nextSibling? {c next : Cursor} (h : c.nextSibling? lang = some next) :
    c.leave? lang = some next := by
  rw [leave?, h]

theorem leave?_of_parent? {c up : Cursor} (h : c.nextSibling? lang = none)
    (hparent : c.parent? = some up) : c.leave? lang = up.leave? lang := by
  rw [leave?, h]
  dsimp only
  split
  · next up' hparent' => rw [Option.some.inj (hparent.symm.trans hparent')]
  · next hparent' => cases hparent.symm.trans hparent'

theorem leave?_of_root {c : Cursor} (h : c.nextSibling? lang = none) (hparent : c.parent? = none) :
    c.leave? lang = none := by
  rw [leave?, h]
  dsimp only
  split
  · next up hparent' => cases hparent.symm.trans hparent'
  · rfl

/-- The sites behind the node at a cursor and all that is below it. -/
def behind (c : Cursor) : List Site := c.after ++ c.above.flatMap (·.2)

/-- How many nodes are below the sites from a cursor on. -/
def work (c : Cursor) : Nat := weights ((c.site :: c.behind).map (·.tree))

theorem weights_first? {sites rest : List Site} {s : Site}
    (h : first? lang sites = some (s, rest)) :
    weights ((s :: rest).map (·.tree)) ≤ weights (sites.map (·.tree)) := by
  induction sites using first?.induct lang with
  | case1 => simp [first?] at h
  | case2 s' rest' hvisible =>
    rw [first?, if_pos hvisible] at h
    obtain ⟨rfl, rfl⟩ : s' = s ∧ rest' = rest := by simpa using h
    exact Nat.le_refl _
  | case3 s' rest' hvisible ih =>
    rw [first?, if_neg hvisible] at h
    have hinside := ih h
    have := s'.tree.weights_children_lt
    simp only [Site.inside, List.map_append, map_tree_childSites, weights_append, List.map_cons,
      weights_cons] at hinside ⊢
    omega

theorem work_firstChild? {c child : Cursor} (h : c.firstChild? lang = some child) :
    child.work < c.work := by
  obtain ⟨⟨s, rest⟩, hfirst, rfl⟩ := Option.map_eq_some_iff.mp h
  have hle := weights_first? lang hfirst
  have := c.site.tree.weights_children_lt
  simp only [Site.below, map_tree_childSites, List.map_cons, weights_cons] at hle
  simp only [work, behind, List.flatMap_cons, List.map_cons, List.map_append, weights_cons,
    weights_append]
  omega

theorem work_nextSibling? {c next : Cursor} (h : c.nextSibling? lang = some next) :
    next.work ≤ weights (c.behind.map (·.tree)) := by
  obtain ⟨⟨s, rest⟩, hfirst, rfl⟩ := Option.map_eq_some_iff.mp h
  have hle := weights_first? lang hfirst
  simp only [List.map_cons, weights_cons] at hle
  simp only [work, behind, List.map_cons, List.map_append, weights_cons, weights_append]
  omega

theorem behind_parent? {c up : Cursor} (h : c.parent? = some up) :
    c.behind = c.after ++ up.behind := by
  obtain ⟨s, after, _ | ⟨above, rest⟩⟩ := c
  · cases h
  · obtain rfl := Option.some.inj h
    rfl

theorem work_leave? {c next : Cursor} (h : c.leave? lang = some next) :
    next.work ≤ weights (c.behind.map (·.tree)) := by
  induction c using leave?.induct lang with
  | case1 c next' hnext =>
    exact work_nextSibling? lang (hnext.trans ((leave?_of_nextSibling? lang hnext).symm.trans h))
  | case2 c hnone up hparent ih =>
    have hle := ih ((leave?_of_parent? lang hnone hparent).symm.trans h)
    rw [behind_parent? hparent, List.map_append, weights_append]
    omega
  | case3 c hnone hparent => cases (leave?_of_root lang hnone hparent).symm.trans h

theorem weights_behind_lt (c : Cursor) : weights (c.behind.map (·.tree)) < c.work := by
  have := c.site.tree.weight_pos
  rw [work, List.map_cons, weights_cons]
  omega

/-- Goes over the nodes from a cursor on and does a step at each of them: into the nodes that
`enter` accepts, and behind the others. -/
def travel {α : Type} (enter : Node → Bool) (step : α → Node → α) (c : Cursor) (a : α) : α :=
  match _hchild : if enter c.site.node then c.firstChild? lang else none with
  | some child => travel enter step child (step a c.site.node)
  | none =>
    match _hleave : c.leave? lang with
    | some next => travel enter step next (step a c.site.node)
    | none => step a c.site.node
termination_by c.work
decreasing_by
  · split at _hchild
    · exact work_firstChild? lang _hchild
    · cases _hchild
  · exact Nat.lt_of_le_of_lt (work_leave? lang _hleave) c.weights_behind_lt

variable {α : Type} {enter : Node → Bool} {step : α → Node → α}

theorem travel_of_firstChild? {c child : Cursor}
    (h : (if enter c.site.node then c.firstChild? lang else none) = some child) (a : α) :
    c.travel lang enter step a = child.travel lang enter step (step a c.site.node) := by
  rw [travel]
  split
  · next child' h' => rw [Option.some.inj (h.symm.trans h')]
  · next h' => cases h.symm.trans h'

theorem travel_of_leave? {c next : Cursor}
    (h : (if enter c.site.node then c.firstChild? lang else none) = none)
    (hleave : c.leave? lang = some next) (a : α) :
    c.travel lang enter step a = next.travel lang enter step (step a c.site.node) := by
  rw [travel]
  split
  · next child h' => cases h.symm.trans h'
  · split
    · next next' hleave' => rw [Option.some.inj (hleave.symm.trans hleave')]
    · next hleave' => cases hleave.symm.trans hleave'

theorem travel_of_end {c : Cursor}
    (h : (if enter c.site.node then c.firstChild? lang else none) = none)
    (hleave : c.leave? lang = none) (a : α) :
    c.travel lang enter step a = step a c.site.node := by
  rw [travel]
  split
  · next child h' => cases h.symm.trans h'
  · split
    · next next hleave' => cases hleave.symm.trans hleave'
    · rfl

end Cursor

end Tree

end SyntaxKit
