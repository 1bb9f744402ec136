import SyntaxKit.Proofs.Tree.Outline

/-!
# The problems of a consistent tree

`Tree.problems` finds the problems of a tree by a walk that goes only into nodes known to contain an
error, and not into problems.  `Outline.topProblems` says what it is meant to find: of all nodes of
the outline, in preorder, those that are problems and below no node in error.

The walk loses nothing in a consistent tree (`Tree.problems_eq`), because there a node without a cost
has nothing to pay for below it; and it finds something whenever the root has a cost
(`Tree.problems_eq_nil_iff`).
-/

namespace SyntaxKit

namespace Outline

/-- Whether a node is a problem that is below no node in error. -/
def isTop (e : List Node × Node) : Bool := Tree.isProblem e.2 && e.1.all fun n => !n.isError

/-- The problems below no node in error, in preorder. -/
def topProblems (o : Outline) : List Node := ((o.entries []).filter isTop).map (·.2)

/-- Whether the search for problems goes on below a node. -/
def isSearched (n : Node) : Bool := !Tree.isProblem n && n.hasError

/-- The problems found by going only into nodes that are searched. -/
def found (o : Outline) : List Node := (o.within isSearched).filter Tree.isProblem

/-- The problems found in some outlines. -/
def foundOf (os : List Outline) : List Node := (withinOf isSearched os).filter Tree.isProblem

@[simp] theorem foundOf_nil : foundOf [] = [] := by simp [foundOf]

@[simp] theorem foundOf_cons (o : Outline) (os : List Outline) :
    foundOf (o :: os) = o.found ++ foundOf os := by simp [foundOf, found]

theorem found_mk (n : Node) (os : List Outline) :
    (mk n os).found = if Tree.isProblem n then [n] else if n.hasError then foundOf os else [] := by
  by_cases hproblem : Tree.isProblem n = true
  · simp [found, isSearched, hproblem]
  · by_cases herror : n.hasError = true
    · simp [found, foundOf, isSearched, hproblem, herror]
    · simp [found, isSearched, hproblem, herror]

/-! ## Below a node in error there is nothing to report -/

mutual

theorem filter_isTop_entries {above : List Node} (h : above.any Node.isError = true)
    (o : Outline) : (o.entries above).filter isTop = [] := by
  have hnot : above.all (fun n => !n.isError) = false := by simpa using h
  cases o with
  | mk n os =>
    have hbelow : (n :: above).any Node.isError = true := by simp [h]
    have ih := filter_isTop_entriesOf hbelow os
    simp [isTop, hnot, ih]

theorem filter_isTop_entriesOf {above : List Node} (h : above.any Node.isError = true)
    (os : List Outline) : (entriesOf above os).filter isTop = [] := by
  cases os with
  | nil => simp
  | cons o os =>
    have ih := filter_isTop_entries h o
    have ih' := filter_isTop_entriesOf h os
    simp [ih, ih']

end

/-! ## What is found is in order -/

mutual

theorem found_inside {o : Outline} (h : o.Nested) :
    ∀ n ∈ o.found, o.node.start.bytes ≤ n.start.bytes ∧ n.stop.bytes ≤ o.node.stop.bytes := by
  intro n hn
  cases h with
  | @mk root os inside ordered below =>
    rw [found_mk] at hn
    split at hn
    · rw [List.mem_singleton] at hn
      subst hn
      exact ⟨Nat.le_refl _, Nat.le_refl _⟩
    · split at hn
      · obtain ⟨o, ho, hstart, hstop⟩ := foundOf_inside below n hn
        obtain ⟨hstart', hstop'⟩ := inside o ho
        exact ⟨Nat.le_trans hstart' hstart, Nat.le_trans hstop hstop'⟩
      · simp at hn

theorem foundOf_inside {os : List Outline} (h : ∀ o ∈ os, o.Nested) :
    ∀ n ∈ foundOf os,
      ∃ o ∈ os, o.node.start.bytes ≤ n.start.bytes ∧ n.stop.bytes ≤ o.node.stop.bytes := by
  intro n hn
  cases os with
  | nil => simp at hn
  | cons o os =>
    rw [foundOf_cons, List.mem_append] at hn
    rcases hn with hn | hn
    · exact ⟨o, List.mem_cons_self .., found_inside (h o (List.mem_cons_self ..)) n hn⟩
    · obtain ⟨o', ho', hrange⟩ :=
        foundOf_inside (fun o ho => h o (List.mem_cons_of_mem _ ho)) n hn
      exact ⟨o', List.mem_cons_of_mem _ ho', hrange⟩

end

mutual

theorem pairwise_found {o : Outline} (h : o.Nested) :
    o.found.Pairwise fun n n' => n.stop.bytes ≤ n'.start.bytes := by
  cases h with
  | @mk root os inside ordered below =>
    rw [found_mk]
    split
    · exact List.pairwise_singleton _ _
    · split
      · exact pairwise_foundOf ordered below
      · exact List.Pairwise.nil

theorem pairwise_foundOf {os : List Outline}
    (hordered : os.Pairwise fun o o' => o.node.stop.bytes ≤ o'.node.start.bytes)
    (h : ∀ o ∈ os, o.Nested) :
    (foundOf os).Pairwise fun n n' => n.stop.bytes ≤ n'.start.bytes := by
  cases os with
  | nil => simp
  | cons o os =>
    obtain ⟨hfirst, hrest⟩ := List.pairwise_cons.mp hordered
    have hos : ∀ o ∈ os, o.Nested := fun o ho => h o (List.mem_cons_of_mem _ ho)
    rw [foundOf_cons, List.pairwise_append]
    refine ⟨pairwise_found (h o (List.mem_cons_self ..)), pairwise_foundOf hrest hos, ?_⟩
    intro n hn n' hn'
    obtain ⟨-, hstop⟩ := found_inside (h o (List.mem_cons_self ..)) n hn
    obtain ⟨o', ho', hstart, -⟩ := foundOf_inside hos n' hn'
    have hle := hfirst o' ho'
    omega

end

end Outline

namespace Language

theorem isVisible_error (lang : Language) : lang.isVisible Symbol.error = true := by
  simp [isVisible, visibility]

end Language

namespace Tree

variable (lang : Language)

/-! ## The walk loses nothing -/

/-- A tree as it stands below no node in error. -/
def Paid (t : Tree) : Prop := t.Consistent lang ∧ ¬t.Unpaid

variable {lang}

/-- Outside text in error the children of a tree stand below no node in error either. -/
theorem Paid.child {t c : Tree} (h : t.Paid lang) (herror : t.isError = false)
    (hc : c ∈ t.children) : c.Paid lang := by
  refine ⟨Every.of_mem h.1 hc, ?_⟩
  cases t with
  | token k => simp [children] at hc
  | branch b cs =>
    refine h.1.root.paid (Branch.holdsErrors_eq_false_iff.mpr ⟨?_, ?_⟩) c hc
    · simpa [isError, symbol] using herror
    · exact fun hskipped => h.2 (.inl hskipped)

/-- A tree that is a problem has something to pay for. -/
theorem Paid.costly_of_isProblem {t : Tree} (h : t.Paid lang)
    (hproblem : (t.isError || t.isMissing) = true) : t.Costly := by
  rw [Bool.or_eq_true] at hproblem
  rcases hproblem with herror | hmissing
  · have hsymbol : t.symbol = Symbol.error := by simpa [isError] using herror
    rw [← h.1.errorCost_pos_iff]
    exact Nat.pos_of_ne_zero fun hzero => h.2 (.inr ⟨hsymbol, hzero⟩)
  · cases t with
    | token k => exact .missing hmissing
    | branch b cs => simp [isMissing] at hmissing

/-- A tree that is no problem itself has something to pay for only in its children. -/
theorem Paid.costly_iff {t : Tree} (h : t.Paid lang)
    (hproblem : (t.isError || t.isMissing) = false) :
    t.Costly ↔ ∃ c ∈ t.children, c.Costly := by
  rw [Bool.or_eq_false_iff] at hproblem
  cases t with
  | token k =>
    simp only [children, List.not_mem_nil, false_and, exists_false, iff_false]
    intro hcostly
    cases hcostly with
    | missing hmissing => simp [isMissing, hmissing] at hproblem
  | branch b cs =>
    have herrors : b.holdsErrors = false := Branch.holdsErrors_eq_false_iff.mpr
      ⟨by simpa [isError, symbol] using hproblem.1, fun hskipped => h.2 (.inl hskipped)⟩
    rw [costly_branch_iff, herrors]
    simp [children]

/-- What is not shown is no problem. -/
theorem Paid.not_isProblem {t : Tree} (h : t.Paid lang)
    (hvisible : lang.isVisible t.symbol = false) : (t.isError || t.isMissing) = false := by
  have herror : t.isError = false := by
    cases herror : t.isError with
    | false => rfl
    | true =>
      have hsymbol : t.symbol = Symbol.error := by simpa [isError] using herror
      simp [hsymbol, Language.isVisible_error] at hvisible
  rw [herror, Bool.false_or]
  cases t with
  | branch b cs => rfl
  | token k =>
    cases hmissing : k.missing with
    | false => exact hmissing
    | true =>
      have hshown := (Every.of_token h.1).missing hmissing
      simp [symbol, hshown] at hvisible

variable (lang)

theorem Paid.forall_inside_append {s : Site} {rest : List Site} (h : s.tree.Paid lang)
    (herror : s.tree.isError = false) (hrest : ∀ s' ∈ rest, s'.tree.Paid lang) :
    ∀ s' ∈ s.inside lang ++ rest, s'.tree.Paid lang := by
  intro s' hs'
  rcases List.mem_append.mp hs' with hs' | hs'
  · exact h.child herror (Site.tree_mem_of_inside lang hs')
  · exact hrest s' hs'

/-- A site with the sites below it has problems to report exactly if it has something to pay for,
provided that this holds of the sites below it. -/
theorem filter_isTop_site_eq_nil_iff {s : Site} (hs : s.tree.Paid lang) {above : List Node}
    (habove : (above.all fun n => !n.isError) = true)
    (below : ∀ above : List Node, (above.all fun n => !n.isError) = true →
      (∀ s' ∈ s.below lang, s'.tree.Paid lang) →
      ((Outline.entriesOf above (outlines lang (s.below lang))).filter Outline.isTop = []
        ↔ ∀ s' ∈ s.below lang, ¬s'.tree.Costly)) :
    ((Outline.mk s.node (outlines lang (s.below lang))).entries above).filter Outline.isTop = []
      ↔ ¬s.tree.Costly := by
  rw [Outline.entries_mk]
  cases hproblem : isProblem s.node with
  | true =>
    have hcostly := hs.costly_of_isProblem hproblem
    simp [Outline.isTop, hproblem, habove, hcostly]
  | false =>
    have herror : s.tree.isError = false := (Bool.or_eq_false_iff.mp hproblem).1
    have hbelow := below (s.node :: above)
      (by simpa [Node.isError, Site.node, herror] using habove)
      fun s' hs' => hs.child herror (Site.tree_mem_of_below lang hs')
    rw [List.filter_cons_of_neg (by simp [Outline.isTop, hproblem]), hbelow,
      hs.costly_iff hproblem, s.forall_below lang (p := fun c => ¬c.Costly)]
    simp

/-- Some sites that stand below no node in error have problems to report exactly if one of them has
something to pay for. -/
theorem filter_isTop_eq_nil_iff (sites : List Site) :
    ∀ above : List Node, (above.all fun n => !n.isError) = true →
      (∀ s ∈ sites, s.tree.Paid lang) →
      ((Outline.entriesOf above (outlines lang sites)).filter Outline.isTop = []
        ↔ ∀ s ∈ sites, ¬s.tree.Costly) := by
  induction sites using sites_induction lang with
  | nil => simp
  | visible s rest hvisible below ih =>
    intro above habove hpaid
    have hs := hpaid s (List.mem_cons_self ..)
    have hrest := ih above habove fun s hs => hpaid s (List.mem_cons_of_mem _ hs)
    rw [outlines_cons_visible lang hvisible, Outline.entriesOf_cons, List.filter_append,
      List.append_eq_nil_iff, hrest, filter_isTop_site_eq_nil_iff lang hs habove below,
      List.forall_mem_cons]
  | invisible s rest hvisible ih =>
    intro above habove hpaid
    have hs := hpaid s (List.mem_cons_self ..)
    have hproblem := hs.not_isProblem hvisible
    have hall := hs.forall_inside_append lang (Bool.or_eq_false_iff.mp hproblem).1
      fun s' hs' => hpaid s' (List.mem_cons_of_mem _ hs')
    rw [outlines_cons_invisible lang hvisible, ih above habove hall, List.forall_mem_append,
      List.forall_mem_cons, hs.costly_iff hproblem,
      s.forall_inside lang (p := fun c => ¬c.Costly)]
    simp

/-- At a site the search finds what there is to report, provided that it does so below. -/
theorem found_site_eq {s : Site} (hs : s.tree.Paid lang) {above : List Node}
    (habove : (above.all fun n => !n.isError) = true)
    (below : ∀ above : List Node, (above.all fun n => !n.isError) = true →
      (∀ s' ∈ s.below lang, s'.tree.Paid lang) →
      Outline.foundOf (outlines lang (s.below lang))
        = ((Outline.entriesOf above (outlines lang (s.below lang))).filter Outline.isTop).map
            (·.2)) :
    (Outline.mk s.node (outlines lang (s.below lang))).found
      = (((Outline.mk s.node (outlines lang (s.below lang))).entries above).filter
          Outline.isTop).map (·.2) := by
  rw [Outline.entries_mk, Outline.found_mk]
  by_cases herror : s.tree.isError = true
  · -- a node in error is reported, and nothing below it
    have herrors : (s.node :: above).any Node.isError = true := by
      simp [Node.isError, Site.node, herror]
    have hbelow := Outline.filter_isTop_entriesOf herrors (outlines lang (s.below lang))
    have hproblem : isProblem s.node = true := by
      simp [isProblem, Node.isError, Site.node, herror]
    have htop : Outline.isTop (above, s.node) = true := by
      simp only [Outline.isTop, hproblem, habove, Bool.and_self]
    rw [if_pos hproblem, List.filter_cons_of_pos htop, hbelow]
    rfl
  · rw [Bool.not_eq_true] at herror
    have habove' : ((s.node :: above).all fun n => !n.isError) = true := by
      rw [List.all_cons, habove, Node.isError, Site.node, herror]
      rfl
    have hpaid' : ∀ s' ∈ s.below lang, s'.tree.Paid lang := fun s' hs' =>
      hs.child herror (Site.tree_mem_of_below lang hs')
    cases hmissing : s.tree.isMissing with
    | true =>
      -- a missing token has nothing below it
      have hproblem : isProblem s.node = true := by
        simp [isProblem, Node.isMissing, Site.node, hmissing]
      have htop : Outline.isTop (above, s.node) = true := by
        simp only [Outline.isTop, hproblem, habove, Bool.and_self]
      have hnil : s.below lang = [] := by
        obtain ⟨t, offset, depth, field⟩ := s
        cases t with
        | token k => rfl
        | branch b cs => simp [isMissing] at hmissing
      rw [if_pos hproblem, List.filter_cons_of_pos htop, hnil]
      simp
    | false =>
      have hproblem : isProblem s.node = false := by
        simp [isProblem, Node.isError, Node.isMissing, Site.node, herror, hmissing]
      have htop : ¬Outline.isTop (above, s.node) = true := by
        simp [Outline.isTop, hproblem]
      rw [List.filter_cons_of_neg htop, if_neg (by simp [hproblem])]
      by_cases hcost : s.node.hasError = true
      · rw [if_pos hcost]
        exact below _ habove' hpaid'
      · -- a node without a cost has nothing to report below it
        have hzero : ¬s.tree.Costly := by
          rw [← hs.1.errorCost_pos_iff]
          exact fun hpos => hcost (decide_eq_true hpos)
        rw [if_neg hcost, (filter_isTop_eq_nil_iff lang _ _ habove' hpaid').mpr]
        · rfl
        · rw [s.forall_below lang (p := fun c => ¬c.Costly)]
          intro c hc hcostly
          exact hzero ((hs.costly_iff (by simp [herror, hmissing])).mpr ⟨c, hc, hcostly⟩)

/-- At some sites that stand below no node in error, the search finds what there is to report. -/
theorem foundOf_eq (sites : List Site) :
    ∀ above : List Node, (above.all fun n => !n.isError) = true →
      (∀ s ∈ sites, s.tree.Paid lang) →
      Outline.foundOf (outlines lang sites)
        = ((Outline.entriesOf above (outlines lang sites)).filter Outline.isTop).map (·.2) := by
  induction sites using sites_induction lang with
  | nil => simp
  | visible s rest hvisible below ih =>
    intro above habove hpaid
    have hs := hpaid s (List.mem_cons_self ..)
    have hrest := ih above habove fun s hs => hpaid s (List.mem_cons_of_mem _ hs)
    rw [outlines_cons_visible lang hvisible, Outline.entriesOf_cons, List.filter_append,
      List.map_append, ← hrest, ← found_site_eq lang hs habove below, Outline.foundOf_cons]
  | invisible s rest hvisible ih =>
    intro above habove hpaid
    have hs := hpaid s (List.mem_cons_self ..)
    have herror := (Bool.or_eq_false_iff.mp (hs.not_isProblem hvisible)).1
    have hall := hs.forall_inside_append lang herror
      fun s' hs' => hpaid s' (List.mem_cons_of_mem _ hs')
    rw [outlines_cons_invisible lang hvisible]
    exact ih above habove hall

/-- The site of the root. -/
def rootSite (t : Tree) : Site := ⟨t, Extent.zero, 0, none⟩

theorem outline_eq (t : Tree) :
    t.outline lang = .mk t.rootSite.node (outlines lang (t.rootSite.below lang)) := by
  have hroot : t.rootSite.node = t.root := by simp [rootSite, Site.node, Tree.root]
  rw [outline, hroot]
  rfl

/-- There is something to report exactly if the root has an error. -/
theorem topProblems_eq_nil_iff {t : Tree} (h : t.Paid lang) :
    (t.outline lang).topProblems = [] ↔ t.root.hasError = false := by
  have hnone : (([] : List Node).all fun n => !n.isError) = true := rfl
  have hsite := filter_isTop_site_eq_nil_iff lang (s := t.rootSite) h hnone
    fun above => filter_isTop_eq_nil_iff lang _ above
  have hcost : t.root.hasError = false ↔ ¬t.Costly := by
    rw [← h.1.errorCost_pos_iff]
    exact decide_eq_false_iff_not
  rw [Outline.topProblems, List.map_eq_nil_iff, outline_eq, hsite, hcost]
  rfl

/-- Searching only what has errors finds every problem that is below no node in error. -/
theorem found_eq_topProblems {t : Tree} (h : t.Paid lang) :
    (t.outline lang).found = (t.outline lang).topProblems := by
  rw [outline_eq]
  exact found_site_eq lang (s := t.rootSite) h rfl fun above => foundOf_eq lang _ above

/-- **The walk loses nothing.**  In a tree that pays for its errors it finds every problem that is
below no node in error, in preorder. -/
theorem problems_eq {t : Tree} (h : t.Paid lang) :
    t.problems lang = (t.outline lang).topProblems := by
  rw [problems_eq_filter]
  split
  · rw [nodesWithin_eq]
    exact found_eq_topProblems lang h
  · next hnone =>
    rw [(topProblems_eq_nil_iff lang h).mpr (by simpa using hnone)]

end Tree

end SyntaxKit
