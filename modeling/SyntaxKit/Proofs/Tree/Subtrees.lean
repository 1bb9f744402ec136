import SyntaxKit.Proofs.Diagnostics.Problems

/-!
# The subtrees of a tree

`Tree.subtrees` lists a tree and everything below it, visible or not, and says of each subtree
whether it stands below a node in error.  The walk over the visible nodes comes by each visible
subtree exactly once, in this order, and sees the same nodes in error above it
(`Tree.map_entries_outline`).  Of the subtrees in error the outermost ones stand below no other: if
there is any, there is one of these (`Tree.exists_isOutermost`).
-/

namespace SyntaxKit

/-- What an entry of an outline says of its tree: whether it stands below a node in error. -/
def Outline.subtree (e : List Node × Node) : Bool × Tree := (e.1.any Node.isError, e.2.tree)

namespace Tree

mutual

/-- A tree and everything below it, in preorder, each with whether it stands below a node in error;
`inError` says so of the tree itself. -/
def subtrees (inError : Bool) : Tree → List (Bool × Tree)
  | token k => [(inError, token k)]
  | branch b cs => (inError, branch b cs) :: subtreesOf (inError || (branch b cs).isError) cs

/-- Some trees and everything below them, in preorder, each with whether it stands below a node in
error. -/
def subtreesOf (inError : Bool) : List Tree → List (Bool × Tree)
  | [] => []
  | t :: ts => subtrees inError t ++ subtreesOf inError ts

end

@[simp] theorem subtreesOf_nil (inError : Bool) : subtreesOf inError [] = [] := by rw [subtreesOf]

@[simp] theorem subtreesOf_cons (inError : Bool) (t : Tree) (ts : List Tree) :
    subtreesOf inError (t :: ts) = t.subtrees inError ++ subtreesOf inError ts := by rw [subtreesOf]

@[simp] theorem subtreesOf_append (inError : Bool) (ts us : List Tree) :
    subtreesOf inError (ts ++ us) = subtreesOf inError ts ++ subtreesOf inError us := by
  induction ts with
  | nil => simp
  | cons t ts ih => simp [ih]

theorem subtrees_eq (inError : Bool) (t : Tree) :
    t.subtrees inError = (inError, t) :: subtreesOf (inError || t.isError) t.children := by
  cases t with
  | token k => rw [subtrees, children, subtreesOf_nil]
  | branch b cs => rw [subtrees, children]

/-! ## What holds everywhere in a tree -/

section

variable {onToken : Token → Prop} {onBranch : Branch → List Tree → Prop} {e : Bool × Tree}

mutual

/-- What holds everywhere in a tree holds everywhere in its subtrees. -/
theorem Every.of_mem_subtrees {inError : Bool} {t : Tree} (h : t.Every onToken onBranch)
    (he : e ∈ t.subtrees inError) : e.2.Every onToken onBranch := by
  cases t with
  | token k =>
    rw [subtrees, List.mem_singleton] at he
    rw [he]
    exact h
  | branch b cs =>
    rw [subtrees, List.mem_cons] at he
    rcases he with rfl | he
    · exact h
    · exact Every.of_mem_subtreesOf (fun c hc => Every.of_mem h hc) he

theorem Every.of_mem_subtreesOf {inError : Bool} {ts : List Tree}
    (h : ∀ t ∈ ts, t.Every onToken onBranch) (he : e ∈ subtreesOf inError ts) :
    e.2.Every onToken onBranch := by
  cases ts with
  | nil => simp at he
  | cons t ts =>
    rw [subtreesOf_cons, List.mem_append] at he
    rcases he with he | he
    · exact Every.of_mem_subtrees (h t (List.mem_cons_self ..)) he
    · exact Every.of_mem_subtreesOf (fun t ht => h t (List.mem_cons_of_mem _ ht)) he

end

end

/-! ## The outermost nodes in error -/

/-- Whether a subtree is in error and stands below no node in error. -/
def isOutermost (e : Bool × Tree) : Bool := e.2.isError && !e.1

mutual

/-- Where there is a node in error, there is an outermost one. -/
theorem exists_isOutermost {t : Tree} {e : Bool × Tree} (he : e ∈ t.subtrees false)
    (herror : e.2.isError = true) : ∃ e' ∈ t.subtrees false, isOutermost e' = true := by
  by_cases hroot : t.isError = true
  · refine ⟨(false, t), ?_, ?_⟩
    · rw [subtrees_eq]
      exact List.mem_cons_self ..
    · simpa [isOutermost] using hroot
  · -- the root is not in error, so what is below it stands below no node in error either
    cases t with
    | token k =>
      rw [subtrees, List.mem_singleton] at he
      subst he
      exact absurd herror hroot
    | branch b cs =>
      rw [Bool.not_eq_true] at hroot
      rw [subtrees, hroot, Bool.or_false, List.mem_cons] at he
      rw [subtrees, hroot, Bool.or_false]
      rcases he with rfl | he
      · exact absurd (hroot.symm.trans herror) Bool.false_ne_true
      · obtain ⟨e', he', houtermost⟩ := exists_isOutermostOf he herror
        exact ⟨e', List.mem_cons_of_mem _ he', houtermost⟩

theorem exists_isOutermostOf {ts : List Tree} {e : Bool × Tree} (he : e ∈ subtreesOf false ts)
    (herror : e.2.isError = true) : ∃ e' ∈ subtreesOf false ts, isOutermost e' = true := by
  cases ts with
  | nil => simp at he
  | cons t ts =>
    rw [subtreesOf_cons, List.mem_append] at he
    rcases he with he | he
    · obtain ⟨e', he', houtermost⟩ := exists_isOutermost he herror
      exact ⟨e', by rw [subtreesOf_cons]; exact List.mem_append_left _ he', houtermost⟩
    · obtain ⟨e', he', houtermost⟩ := exists_isOutermostOf he herror
      exact ⟨e', by rw [subtreesOf_cons]; exact List.mem_append_right _ he', houtermost⟩

end

/-- The subtrees in error are the outermost ones and those that stand below another one. -/
theorem countP_isOutermost_add (es : List (Bool × Tree)) :
    es.countP isOutermost + es.countP (fun e => e.2.isError && e.1)
      = es.countP fun e => e.2.isError := by
  rw [List.countP_eq_countP_filter_add es (fun e => e.2.isError) fun e => !e.1, List.countP_filter,
    List.countP_filter]
  simp only [Bool.not_not]
  rfl

/-! ## The walk over the visible nodes -/

variable (lang : Language)

/-- Whether a subtree is a visible node. -/
def isShown (e : Bool × Tree) : Bool := lang.isVisible e.2.symbol

/-- What is in error is visible. -/
theorem isVisible_of_isError {t : Tree} (h : t.isError = true) :
    lang.isVisible t.symbol = true := by
  have hsymbol : t.symbol = Symbol.error := by simpa [isError] using h
  rw [hsymbol]
  exact lang.isVisible_error

/-- **The walk comes by every visible subtree exactly once**, in preorder, and sees there the nodes
in error above it. -/
theorem map_entriesOf_outlines (sites : List Site) : ∀ above : List Node,
    (Outline.entriesOf above (outlines lang sites)).map Outline.subtree
      = (subtreesOf (above.any Node.isError) (sites.map (·.tree))).filter (isShown lang) := by
  induction sites using sites_induction lang with
  | nil => simp
  | visible s rest hvisible below ih =>
    intro above
    have hroot : Outline.subtree (above, s.node) = (above.any Node.isError, s.tree) := rfl
    have hshown : isShown lang (above.any Node.isError, s.tree) = true := hvisible
    have hinside : (s.node :: above).any Node.isError
        = (above.any Node.isError || s.tree.isError) := Bool.or_comm ..
    rw [outlines_cons_visible lang hvisible, Outline.entriesOf_cons, Outline.entries_mk,
      List.map_append, List.map_cons, ih above, below (s.node :: above), hroot, hinside,
      s.map_tree_below lang, List.map_cons, subtreesOf_cons, subtrees_eq, List.filter_append,
      List.filter_cons_of_pos hshown, List.cons_append]
  | invisible s rest hvisible ih =>
    intro above
    have herror : s.tree.isError = false := by
      by_contra herror
      have hshown := isVisible_of_isError lang (Bool.not_eq_false _ ▸ herror)
      exact absurd (hshown.symm.trans hvisible) (by simp)
    have hhidden : ¬isShown lang (above.any Node.isError, s.tree) = true := by
      simp [isShown, hvisible]
    rw [outlines_cons_invisible lang hvisible, ih above, List.map_append, s.map_tree_inside lang,
      subtreesOf_append, List.map_cons, subtreesOf_cons, subtrees_eq, herror, Bool.or_false,
      List.cons_append, List.filter_cons_of_neg hhidden]

/-- The nodes of a tree, each with the nodes above it, are its root and the visible subtrees below. -/
theorem map_entries_outline (t : Tree) :
    ((t.outline lang).entries []).map Outline.subtree
      = (false, t) :: (subtreesOf t.isError t.children).filter (isShown lang) := by
  have hbelow := map_entriesOf_outlines lang (t.rootSite.below lang) [t.rootSite.node]
  have hroot : [t.rootSite.node].any Node.isError = t.isError := by
    simp [rootSite, Site.node, Node.isError]
  rw [hroot, Site.map_tree_below] at hbelow
  rw [outline_eq, Outline.entries_mk, List.map_cons, hbelow]
  rfl

end Tree

end SyntaxKit
