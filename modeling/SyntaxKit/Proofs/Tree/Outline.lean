import SyntaxKit.Diagnostics.SyntaxError
import SyntaxKit.Proofs.Tree.Consistent

/-!
# The outline of a tree

`Tree.nodes` lists the visible nodes of a tree without saying which of them lies below which.
`Tree.outline` is the tree that they form: each visible node over the visible nodes that are reached
from it through invisible ones only.  `Tree.nodes_eq` says that the list of the nodes is the
preorder of the outline, and `Outline.entries` gives each node together with the nodes above it.
A cursor comes to the same nodes in the same order (`Tree.Cursor.travel_atRoot`).

In a consistent tree the ranges of the nodes are nested like the nodes themselves, and siblings
follow each other without overlapping (`Tree.nested_outline`).
-/

namespace SyntaxKit

/-! ## Outlines -/

/-- A visible node over the visible nodes below it. -/
inductive Outline where
  | mk (node : Node) (below : List Outline)
deriving Inhabited

namespace Outline

/-- The node at the top. -/
def node : Outline → Node
  | mk n _ => n

/-- The outlines below the top. -/
def children : Outline → List Outline
  | mk _ os => os

mutual

/-- An outline and everything below it, in preorder. -/
def all : Outline → List Outline
  | mk n os => mk n os :: allOf os

/-- Some outlines and everything below them, in preorder. -/
def allOf : List Outline → List Outline
  | [] => []
  | o :: os => all o ++ allOf os

end

mutual

/-- The nodes of an outline in preorder, each with the nodes above it, the nearest first. -/
def entries (above : List Node) : Outline → List (List Node × Node)
  | mk n os => (above, n) :: entriesOf (n :: above) os

/-- The nodes of some outlines in preorder, each with the nodes above it. -/
def entriesOf (above : List Node) : List Outline → List (List Node × Node)
  | [] => []
  | o :: os => entries above o ++ entriesOf above os

end

mutual

/-- The nodes of an outline in preorder, without those below nodes that `enter` refuses. -/
def within (enter : Node → Bool) : Outline → List Node
  | mk n os => n :: if enter n then withinOf enter os else []

/-- The nodes of some outlines in preorder, without those below nodes that `enter` refuses. -/
def withinOf (enter : Node → Bool) : List Outline → List Node
  | [] => []
  | o :: os => within enter o ++ withinOf enter os

end

@[simp] theorem all_mk (n : Node) (os : List Outline) : (mk n os).all = mk n os :: allOf os := by
  rw [all]

@[simp] theorem allOf_nil : allOf [] = [] := by rw [allOf]

@[simp] theorem allOf_cons (o : Outline) (os : List Outline) :
    allOf (o :: os) = o.all ++ allOf os := by rw [allOf]

@[simp] theorem entries_mk (above : List Node) (n : Node) (os : List Outline) :
    (mk n os).entries above = (above, n) :: entriesOf (n :: above) os := by rw [entries]

@[simp] theorem entriesOf_nil (above : List Node) : entriesOf above [] = [] := by rw [entriesOf]

@[simp] theorem entriesOf_cons (above : List Node) (o : Outline) (os : List Outline) :
    entriesOf above (o :: os) = o.entries above ++ entriesOf above os := by rw [entriesOf]

@[simp] theorem within_mk (enter : Node → Bool) (n : Node) (os : List Outline) :
    (mk n os).within enter = n :: if enter n then withinOf enter os else [] := by rw [within]

@[simp] theorem withinOf_nil (enter : Node → Bool) : withinOf enter [] = [] := by rw [withinOf]

@[simp] theorem withinOf_cons (enter : Node → Bool) (o : Outline) (os : List Outline) :
    withinOf enter (o :: os) = o.within enter ++ withinOf enter os := by rw [withinOf]

@[simp] theorem withinOf_append (enter : Node → Bool) (os os' : List Outline) :
    withinOf enter (os ++ os') = withinOf enter os ++ withinOf enter os' := by
  induction os with
  | nil => simp
  | cons o os ih => simp [ih]

@[simp] theorem entriesOf_append (above : List Node) (os os' : List Outline) :
    entriesOf above (os ++ os') = entriesOf above os ++ entriesOf above os' := by
  induction os with
  | nil => simp
  | cons o os ih => simp [ih]

@[simp] theorem allOf_append (os os' : List Outline) :
    allOf (os ++ os') = allOf os ++ allOf os' := by
  induction os with
  | nil => simp
  | cons o os ih => simp [ih]

mutual

theorem map_node_all (o : Outline) : o.all.map node = o.within fun _ => true := by
  cases o with
  | mk n os =>
    have ih := map_node_allOf os
    simp [node, ih]

theorem map_node_allOf (os : List Outline) :
    (allOf os).map node = withinOf (fun _ => true) os := by
  cases os with
  | nil => simp
  | cons o os =>
    have ih := map_node_all o
    have ih' := map_node_allOf os
    simp [ih, ih']

end

mutual

/-- The entries of an outline are its nodes. -/
theorem map_snd_entries (above : List Node) (o : Outline) :
    (o.entries above).map (·.2) = o.within fun _ => true := by
  cases o with
  | mk n os =>
    have ih := map_snd_entriesOf (n :: above) os
    simp [ih]

theorem map_snd_entriesOf (above : List Node) (os : List Outline) :
    (entriesOf above os).map (·.2) = withinOf (fun _ => true) os := by
  cases os with
  | nil => simp
  | cons o os =>
    have ih := map_snd_entries above o
    have ih' := map_snd_entriesOf above os
    simp [ih, ih']

end

/-- The range of every node below lies in that of its parent, and siblings follow each other. -/
inductive Nested : Outline → Prop
  | mk {n : Node} {os : List Outline}
      (inside : ∀ o ∈ os, n.start.bytes ≤ o.node.start.bytes ∧ o.node.stop.bytes ≤ n.stop.bytes)
      (ordered : os.Pairwise fun o o' => o.node.stop.bytes ≤ o'.node.start.bytes)
      (below : ∀ o ∈ os, Nested o) : Nested (mk n os)

end Outline

namespace Tree

variable (lang : Language)

/-- The outlines of the visible nodes of a list of sites. -/
def outlines (sites : List Site) : List Outline :=
  match sites with
  | [] => []
  | s :: rest =>
    if lang.isVisible s.tree.symbol then .mk s.node (outlines (s.below lang)) :: outlines rest
    else outlines (s.inside lang ++ rest)
termination_by weights (sites.map (·.tree))
decreasing_by
  all_goals
    have := s.tree.weight_pos
    have := s.tree.weights_children_lt
    simp [Site.below, Site.inside, map_tree_childSites]
    try omega

/-- The outline of a tree; the root is always shown. -/
def outline (t : Tree) : Outline :=
  let root : Site := ⟨t, Extent.zero, 0, none⟩
  .mk t.root (outlines lang (root.below lang))

@[simp] theorem outlines_nil : outlines lang [] = [] := by rw [outlines]

theorem outlines_cons_visible {s : Site} (h : lang.isVisible s.tree.symbol = true)
    (rest : List Site) :
    outlines lang (s :: rest) = .mk s.node (outlines lang (s.below lang)) :: outlines lang rest := by
  rw [outlines, if_pos h]

theorem outlines_cons_invisible {s : Site} (h : lang.isVisible s.tree.symbol = false)
    (rest : List Site) :
    outlines lang (s :: rest) = outlines lang (s.inside lang ++ rest) := by
  rw [outlines, if_neg (by simp [h])]

/-- Reasoning about the outlines of a list of sites, from its first site on. -/
theorem sites_induction {motive : List Site → Prop} (nil : motive [])
    (visible : ∀ s rest, lang.isVisible s.tree.symbol = true → motive (s.below lang) →
      motive rest → motive (s :: rest))
    (invisible : ∀ s rest, lang.isVisible s.tree.symbol = false →
      motive (s.inside lang ++ rest) → motive (s :: rest)) (sites : List Site) : motive sites := by
  induction sites using outlines.induct lang with
  | case1 => exact nil
  | case2 s rest h below rest_ih => exact visible s rest h below rest_ih
  | case3 s rest h inside => exact invisible s rest (by simpa using h) inside

theorem outlines_append (sites sites' : List Site) :
    outlines lang (sites ++ sites') = outlines lang sites ++ outlines lang sites' := by
  induction sites using sites_induction lang with
  | nil => simp
  | visible s rest h below ih =>
    rw [List.cons_append, outlines_cons_visible lang h, outlines_cons_visible lang h, ih]
    rfl
  | invisible s rest h ih =>
    rw [List.cons_append, outlines_cons_invisible lang h, outlines_cons_invisible lang h, ← ih,
      List.append_assoc]

/-- **Every outline stands over a site**, of which holds whatever is handed on from the sites at the
top to those below. -/
theorem exists_site {P : Site → Prop} (hbelow : ∀ s, P s → ∀ s' ∈ s.below lang, P s')
    (hinside : ∀ s, P s → ∀ s' ∈ s.inside lang, P s') (sites : List Site) :
    (∀ s ∈ sites, P s) → ∀ o ∈ Outline.allOf (outlines lang sites), ∃ s, P s
      ∧ lang.isVisible s.tree.symbol = true ∧ o = .mk s.node (outlines lang (s.below lang)) := by
  induction sites using sites_induction lang with
  | nil => simp
  | visible s rest h below ih =>
    intro hsites o ho
    have hs := hsites s (List.mem_cons_self ..)
    rw [outlines_cons_visible lang h, Outline.allOf_cons, Outline.all_mk, List.cons_append] at ho
    rcases List.mem_cons.mp ho with rfl | ho
    · exact ⟨s, hs, h, rfl⟩
    · rcases List.mem_append.mp ho with ho | ho
      · exact below (hbelow s hs) o ho
      · exact ih (fun s hs => hsites s (List.mem_cons_of_mem _ hs)) o ho
  | invisible s rest h ih =>
    intro hsites o ho
    rw [outlines_cons_invisible lang h] at ho
    refine ih (fun s' hs' => ?_) o ho
    rcases List.mem_append.mp hs' with hs' | hs'
    · exact hinside s (hsites s (List.mem_cons_self ..)) s' hs'
    · exact hsites s' (List.mem_cons_of_mem _ hs')

theorem visit_eq (enter : Node → Bool) (sites : List Site) (seen : List Node) :
    visit lang enter sites seen
      = seen.reverse ++ Outline.withinOf enter (outlines lang sites) := by
  induction sites, seen using visit.induct lang enter with
  | case1 seen => simp [visit]
  | case2 seen s rest h n henter ih =>
    rw [visit, if_pos h]
    simp only
    rw [if_pos henter, ih, outlines_append, outlines_cons_visible lang h]
    simp [show enter s.node = true from henter, show n = s.node from rfl]
  | case3 seen s rest h n henter ih =>
    rw [visit, if_pos h]
    simp only
    rw [if_neg henter, ih, outlines_cons_visible lang h]
    simp [show ¬enter s.node = true from henter, show n = s.node from rfl]
  | case4 seen s rest h ih =>
    rw [visit, if_neg h, ih, outlines_cons_invisible lang (by simpa using h)]

/-- Walking over a tree gives the preorder of its outline, cut where the walk is told to. -/
theorem nodesWithin_eq (enter : Node → Bool) (t : Tree) :
    t.nodesWithin lang enter = (t.outline lang).within enter := by
  have hroot : (⟨t, Extent.zero, 0, none⟩ : Site).node = t.root := by
    simp [Site.node, Tree.root]
  rw [nodesWithin, outline]
  simp only [hroot, Outline.within_mk]
  split
  · rw [visit_eq]
    rfl
  · rfl

/-- **The visible nodes of a tree are the preorder of its outline.** -/
theorem nodes_eq (t : Tree) : t.nodes lang = (t.outline lang).all.map Outline.node := by
  rw [nodes, nodesWithin_eq, Outline.map_node_all]

/-! ## Travelling -/

namespace Cursor

variable {lang} {enter : Node → Bool} {c c' : Cursor}

/-- The outlines of some sites begin with the one over the first visible node. -/
theorem outlines_first? (lang : Language) (sites : List Site) :
    (first? lang sites = none → outlines lang sites = [])
      ∧ ∀ s rest, first? lang sites = some (s, rest) →
        outlines lang sites = .mk s.node (outlines lang (s.below lang)) :: outlines lang rest := by
  induction sites using first?.induct lang with
  | case1 => simp [first?]
  | case2 s rest hvisible =>
    rw [first?, if_pos hvisible, outlines_cons_visible lang hvisible]
    refine ⟨by simp, fun s' rest' heq => ?_⟩
    obtain ⟨rfl, rfl⟩ : s = s' ∧ rest = rest' := by simpa using heq
    rfl
  | case3 s rest hvisible ih =>
    rw [first?, if_neg hvisible, outlines_cons_invisible lang (by simpa using hvisible)]
    exact ih

/-- The nodes that are left to travel over from a cursor on. -/
def left (lang : Language) (enter : Node → Bool) (c : Cursor) : List Node :=
  Outline.withinOf enter
    (.mk c.site.node (outlines lang (c.site.below lang)) :: outlines lang c.behind)

/-- What is left is the node at the cursor, and then what is left from its first child on if one
goes to that, and what is behind it if not. -/
theorem left_eq (c : Cursor) :
    ((if enter c.site.node then c.firstChild? lang else none) = none →
        left lang enter c = c.site.node :: Outline.withinOf enter (outlines lang c.behind))
      ∧ ∀ child, (if enter c.site.node then c.firstChild? lang else none) = some child →
        left lang enter c = c.site.node :: left lang enter child := by
  have hfirst := outlines_first? lang (c.site.below lang)
  rw [left, Outline.withinOf_cons, Outline.within_mk, firstChild?]
  by_cases henter : enter c.site.node = true
  · simp only [if_pos henter]
    constructor
    · intro hnone
      rw [hfirst.1 (by simpa using hnone)]
      simp
    · intro child hchild
      obtain ⟨found, hfound, rfl⟩ := Option.map_eq_some_iff.mp hchild
      rw [hfirst.2 found.1 found.2 hfound, left, behind]
      simp [behind, outlines_append]
  · simp [if_neg henter]

/-- Leaving a node leads to the first of the nodes behind it. -/
theorem left_leave? (c : Cursor) :
    (c.leave? lang = none → Outline.withinOf enter (outlines lang c.behind) = [])
      ∧ ∀ next, c.leave? lang = some next →
        Outline.withinOf enter (outlines lang c.behind) = left lang enter next := by
  have hafter {c : Cursor} (hnone : c.nextSibling? lang = none) : outlines lang c.after = [] :=
    (outlines_first? lang _).1 (by simpa [nextSibling?] using hnone)
  induction c using leave?.induct lang with
  | case1 c next hnext =>
    obtain ⟨found, hfound, rfl⟩ := Option.map_eq_some_iff.mp hnext
    rw [leave?_of_nextSibling? lang hnext]
    refine ⟨by simp, fun next' heq => ?_⟩
    obtain rfl := Option.some.inj heq
    rw [behind, outlines_append, (outlines_first? lang _).2 found.1 found.2 hfound, left, behind,
      outlines_append]
    rfl
  | case2 c hnone up hparent ih =>
    rw [behind_parent? hparent, outlines_append, hafter hnone, List.nil_append,
      leave?_of_parent? lang hnone hparent]
    exact ih
  | case3 c hnone hparent =>
    have habove : c.above = [] := by
      obtain ⟨s, after, _ | ⟨up, above⟩⟩ := c
      · rfl
      · cases hparent
    rw [behind, habove, List.flatMap_nil, List.append_nil, hafter hnone,
      leave?_of_root lang hnone hparent]
    simp

/-- **To travel is to take the nodes that are left one after the other.** -/
theorem travel_eq {α : Type} (step : α → Node → α) (c : Cursor) (a : α) :
    c.travel lang enter step a = (left lang enter c).foldl step a := by
  induction c, a using travel.induct lang enter step with
  | case1 c a child hchild ih =>
    rw [travel_of_firstChild? lang hchild, (left_eq c).2 child hchild, List.foldl_cons, ih]
  | case2 c a hchild next hleave ih =>
    rw [travel_of_leave? lang hchild hleave, (left_eq c).1 hchild, List.foldl_cons,
      (left_leave? c).2 next hleave, ih]
  | case3 c a hchild hleave =>
    rw [travel_of_end lang hchild hleave, (left_eq c).1 hchild, List.foldl_cons,
      (left_leave? c).1 hleave, List.foldl_nil]

/-- **A cursor on the root comes to the nodes of the tree in preorder**, cut where it is told to. -/
theorem travel_atRoot {α : Type} (enter : Node → Bool) (step : α → Node → α) (t : Tree) (a : α) :
    (atRoot t).travel lang enter step a = (t.nodesWithin lang enter).foldl step a := by
  have hroot : (⟨t, Extent.zero, 0, none⟩ : Site).node = t.root := by
    simp [Site.node, Tree.root]
  rw [travel_eq, nodesWithin_eq, outline, left]
  simp [atRoot, behind, hroot]

end Cursor

/-- The problems that are found are those among the nodes that the search goes over. -/
theorem problems_eq_filter (t : Tree) : t.problems lang =
    if t.root.hasError then
      (t.nodesWithin lang fun n => !isProblem n && n.hasError).filter isProblem
    else [] := by
  have hadd (ns found : List Node) :
      ns.foldl addProblem found = (ns.filter isProblem).reverse ++ found := by
    induction ns generalizing found with
    | nil => rfl
    | cons n ns ih => cases hn : isProblem n <;> simp [ih, addProblem, hn]
  rw [problems, Cursor.travel_atRoot, hadd, List.append_nil, List.reverse_reverse]

/-- The share of nodes in error is counted over all nodes. -/
theorem errorRatio_eq (t : Tree) : t.errorRatio lang =
    ⟨((t.nodes lang).filter Node.isError).length, (t.nodes lang).length⟩ := by
  have hcount (ns : List Node) (r : ErrorRatio) : ns.foldl ErrorRatio.count r
      = ⟨r.errors + (ns.filter Node.isError).length, r.total + ns.length⟩ := by
    induction ns generalizing r with
    | nil => rfl
    | cons n ns ih =>
      cases hn : n.isError <;> simp [ih, ErrorRatio.count, hn, Nat.add_assoc, Nat.add_comm 1]
  rw [errorRatio, Cursor.travel_atRoot, hcount, nodes]
  simp

/-! ## Ranges -/

/-- Sites that stand one after the other, from an offset on. -/
def Sited : Extent → List Site → Prop
  | _, [] => True
  | offset, s :: rest => s.offset = offset ∧ Sited (offset + s.tree.totalSize) rest

theorem sited_childSites (production depth : Nat) (field : Option String) (ts : List Tree)
    (offset : Extent) (index : Nat) :
    Sited offset (childSites lang production depth field ts offset index) := by
  induction ts generalizing offset index with
  | nil => trivial
  | cons t ts ih =>
    rw [childSites]
    split
    · exact ⟨rfl, ih _ _⟩
    · exact ⟨rfl, ih _ _⟩

@[simp] theorem Site.map_tree_below (s : Site) : (s.below lang).map (·.tree) = s.tree.children :=
  map_tree_childSites ..

@[simp] theorem Site.map_tree_inside (s : Site) :
    (s.inside lang).map (·.tree) = s.tree.children := map_tree_childSites ..

theorem Site.tree_mem_of_below {s s' : Site} (h : s' ∈ s.below lang) :
    s'.tree ∈ s.tree.children := by
  rw [← s.map_tree_below lang]
  exact List.mem_map_of_mem h

theorem Site.tree_mem_of_inside {s s' : Site} (h : s' ∈ s.inside lang) :
    s'.tree ∈ s.tree.children := by
  rw [← s.map_tree_inside lang]
  exact List.mem_map_of_mem h

theorem Site.forall_below {p : Tree → Prop} (s : Site) :
    (∀ s' ∈ s.below lang, p s'.tree) ↔ ∀ c ∈ s.tree.children, p c := by
  rw [← s.map_tree_below lang, List.forall_mem_map]

theorem Site.forall_inside {p : Tree → Prop} (s : Site) :
    (∀ s' ∈ s.inside lang, p s'.tree) ↔ ∀ c ∈ s.tree.children, p c := by
  rw [← s.map_tree_inside lang, List.forall_mem_map]

theorem Sited.append {offset : Extent} {sites sites' : List Site} (h : Sited offset sites)
    (h' : Sited (offset + totalSizes (sites.map (·.tree))) sites') :
    Sited offset (sites ++ sites') := by
  induction sites generalizing offset with
  | nil => simpa using h'
  | cons s rest ih =>
    refine ⟨h.1, ih h.2 ?_⟩
    simpa [Extent.add_assoc] using h'

/-- The padding of the first of some trees. -/
def headPadding : List Site → Extent
  | [] => Extent.zero
  | s :: _ => s.tree.padding

/-- Outlines that lie between two offsets, one after the other, each nested in itself. -/
def Spread (first last : Nat) (os : List Outline) : Prop :=
  (∀ o ∈ os, first ≤ o.node.start.bytes ∧ o.node.stop.bytes ≤ last ∧ o.Nested)
    ∧ os.Pairwise fun o o' => o.node.stop.bytes ≤ o'.node.start.bytes

theorem Spread.mono {first first' last last' : Nat} {os : List Outline}
    (h : Spread first' last' os) (hfirst : first ≤ first') (hlast : last' ≤ last) :
    Spread first last os := by
  refine ⟨fun o ho => ?_, h.2⟩
  obtain ⟨hstart, hstop, hnested⟩ := h.1 o ho
  exact ⟨by omega, by omega, hnested⟩

theorem headPadding_le (offset : Extent) (sites : List Site) :
    (offset + headPadding sites).bytes
      ≤ (offset + totalSizes (sites.map (·.tree))).bytes := by
  cases sites with
  | nil => simp [headPadding]
  | cons s rest =>
    simp only [headPadding, List.map_cons, totalSizes_cons, totalSize, Extent.bytes_add]
    omega

theorem headPadding_children {s : Site} {sites : List Site}
    (hs : s.tree.Consistent lang) (hsites : sites.map (·.tree) = s.tree.children)
    (hne : s.tree.children ≠ []) : headPadding sites = s.tree.padding := by
  obtain ⟨t, offset, depth, field⟩ := s
  cases hs with
  | token root => exact absurd rfl hne
  | @branch b cs root children =>
    cases sites with
    | nil => exact absurd hsites.symm hne
    | cons s' rest =>
      cases cs with
      | nil => exact absurd rfl hne
      | cons c cs =>
        simp only [List.map_cons, Tree.children, List.cons.injEq] at hsites
        rw [headPadding, hsites.1]
        exact root.fits.1.symm

theorem totalSizes_children {t : Tree} (h : t.Consistent lang) (hne : t.children ≠ []) :
    totalSizes t.children = t.totalSize := by
  cases h with
  | token root => exact absurd rfl hne
  | branch root children => exact root.fits.totalSize.symm

/-- The nodes of consistent trees that stand one after the other lie between the end of the first
padding and the end of the last tree, one after the other. -/
theorem spread_outlines (sites : List Site) :
    ∀ offset, Sited offset sites → (∀ s ∈ sites, s.tree.Consistent lang) →
      Spread (offset + headPadding sites).bytes
        (offset + totalSizes (sites.map (·.tree))).bytes (outlines lang sites) := by
  induction sites using sites_induction lang with
  | nil =>
    intro offset _ _
    rw [outlines_nil]
    exact ⟨fun o ho => by simp at ho, List.Pairwise.nil⟩
  | visible s rest h below ih =>
    rintro offset ⟨rfl, hsited⟩ hconsistent
    have hs := hconsistent s (List.mem_cons_self ..)
    have hrest := ih _ hsited fun s hs => hconsistent s (List.mem_cons_of_mem _ hs)
    have hbelow := below s.offset (sited_childSites lang _ _ _ _ _ _) fun s' hs' =>
      Every.of_mem hs (Site.tree_mem_of_below lang hs')
    have hle := headPadding_le (s.offset + s.tree.totalSize) rest
    have hnested : (Outline.mk s.node (outlines lang (s.below lang))).Nested := by
      refine .mk (fun o ho => ?_) hbelow.2 fun o ho => (hbelow.1 o ho).2.2
      by_cases hne : s.tree.children = []
      · simp [Site.below, hne, childSites] at ho
      · obtain ⟨hstart, hstop, -⟩ := hbelow.1 o ho
        rw [headPadding_children lang hs (s.map_tree_below lang) hne] at hstart
        rw [s.map_tree_below lang, totalSizes_children lang hs hne] at hstop
        refine ⟨hstart, ?_⟩
        simpa [Node.stop, Site.node, totalSize, Extent.add_assoc] using hstop
    rw [outlines_cons_visible lang h]
    constructor
    · intro o ho
      rcases List.mem_cons.mp ho with rfl | ho
      · refine ⟨Nat.le_refl _, ?_, hnested⟩
        simp [Outline.node, Node.stop, Site.node, totalSize]
        omega
      · obtain ⟨hstart, hstop, ho⟩ := hrest.1 o ho
        refine ⟨?_, ?_, ho⟩
        · simp [headPadding, totalSize] at hstart ⊢
          omega
        · simpa [Extent.add_assoc] using hstop
    · refine List.pairwise_cons.mpr ⟨fun o ho => ?_, hrest.2⟩
      have hstart := (hrest.1 o ho).1
      simp [Outline.node, Node.stop, Site.node, totalSize] at hstart ⊢
      omega
  | invisible s rest h ih =>
    rintro offset ⟨rfl, hsited⟩ hconsistent
    have hs := hconsistent s (List.mem_cons_self ..)
    have hinside : Sited s.offset (s.inside lang) := sited_childSites lang _ _ _ _ _ _
    have hall : ∀ s' ∈ s.inside lang ++ rest, s'.tree.Consistent lang := by
      intro s' hs'
      rcases List.mem_append.mp hs' with hs' | hs'
      · exact Every.of_mem hs (Site.tree_mem_of_inside lang hs')
      · exact hconsistent s' (List.mem_cons_of_mem _ hs')
    rw [outlines_cons_invisible lang h]
    by_cases hne : s.tree.children = []
    · have hnil : s.inside lang = [] := by simp [Site.inside, hne, childSites]
      rw [hnil, List.nil_append] at ih hall
      rw [hnil, List.nil_append]
      refine (ih _ hsited hall).mono ?_ ?_
      · simp [headPadding, totalSize]
        omega
      · simp
        omega
    · have htotal := totalSizes_children lang hs hne
      have hmap := s.map_tree_inside lang
      refine (ih s.offset (hinside.append ?_) hall).mono ?_ ?_
      · rw [hmap, htotal]
        exact hsited
      · have hhead : headPadding (s.inside lang ++ rest) = s.tree.padding := by
          rw [← headPadding_children lang hs hmap hne]
          cases hin : s.inside lang with
          | nil =>
            rw [hin] at hmap
            exact absurd hmap.symm hne
          | cons s' sites => rfl
        rw [hhead]
        exact Nat.le_refl _
      · simp [hmap, htotal]

/-- **The ranges of the nodes of a consistent tree are nested like the nodes themselves**, and
siblings follow each other without overlapping. -/
theorem nested_outline {t : Tree} (h : t.Consistent lang) : (t.outline lang).Nested := by
  have hspread := spread_outlines lang ((⟨t, Extent.zero, 0, none⟩ : Site).below lang) Extent.zero
    (sited_childSites lang _ _ _ _ _ _) fun s hs =>
      Every.of_mem h (Site.tree_mem_of_below lang hs)
  refine .mk (fun o ho => ?_) hspread.2 fun o ho => (hspread.1 o ho).2.2
  by_cases hne : t.children = []
  · simp [Site.below, hne, childSites] at ho
  · obtain ⟨hstart, hstop, -⟩ := hspread.1 o ho
    rw [headPadding_children lang (s := ⟨t, Extent.zero, 0, none⟩) h (Site.map_tree_below ..) hne,
      Extent.zero_add] at hstart
    rw [Site.map_tree_below, totalSizes_children lang h hne, Extent.zero_add] at hstop
    exact ⟨hstart, hstop⟩

end Tree

end SyntaxKit
