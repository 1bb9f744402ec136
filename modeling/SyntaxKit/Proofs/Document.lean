import SyntaxKit.Proofs.Diagnostics.Problems
import SyntaxKit.Proofs.Document.Reached

/-!
# The errors of a document

However a document was reached, its tree is consistent and pays for all of its errors
(`Document.Reached.parsed`).  It follows that the errors that are reported for a document are exactly
the problems that are below no node in error (`Document.Reached.syntaxErrors_eq`).
-/

namespace SyntaxKit

variable {lang : Language}

namespace Document

/-- The problems of a document in preorder do not overlap. -/
theorem Reached.pairwise_topProblems (hlang : lang.Orderly) {text : List Char} {d : Document}
    (h : Reached lang text d) :
    (d.tree.outline lang).topProblems.Pairwise fun n n' =>
      n.start.bytes ≤ n'.start.bytes ∧ n.stop.bytes ≤ n'.start.bytes := by
  have hpaid := (h.parsed hlang).paid
  have hfound := Outline.pairwise_found (Tree.nested_outline lang hpaid.1)
  rw [Tree.found_eq_topProblems lang hpaid] at hfound
  refine hfound.imp fun {n n'} hstop => ⟨?_, hstop⟩
  have hstart : n.start.bytes ≤ n.stop.bytes := by
    rw [Node.stop]
    exact Nat.le_add_right _ _
  exact Nat.le_trans hstart hstop

/-- **The reported errors of a document are its problems outside of nodes in error.**  For a document
reached by edits from any text, every node that is in error or missing and is below no node in error
is reported, each once and in preorder, and nothing else is; what is reported follows each other
without overlap; and nothing is reported exactly if the root knows of no error. -/
theorem Reached.syntaxErrors_eq {text : List Char} {d : Document}
    (h : Reached Harneet.language text d) :
    d.tree.syntaxErrors Harneet.language d.text
        = (d.tree.outline Harneet.language).topProblems.map
          (SyntaxError.ofNode Harneet.language (Source.ofText d.text))
      ∧ ((d.tree.syntaxErrors Harneet.language d.text).Pairwise fun e e' =>
        e.first ≤ e'.first ∧ e.last ≤ e'.first)
      ∧ (d.tree.syntaxErrors Harneet.language d.text = [] ↔ d.tree.root.hasError = false) := by
  have hpaid := (h.parsed Harneet.orderly).paid
  have herrors : d.tree.syntaxErrors Harneet.language d.text
      = (d.tree.outline Harneet.language).topProblems.map
        (SyntaxError.ofNode Harneet.language (Source.ofText d.text)) := by
    rw [Tree.syntaxErrors, Tree.problems_eq Harneet.language hpaid]
    split
    · next hnil => rw [hnil, List.map_nil]
    · rfl
  refine ⟨herrors, ?_, ?_⟩
  · rw [herrors, List.pairwise_map]
    refine (h.pairwise_topProblems Harneet.orderly).imp fun {n n'} hn => ?_
    have hrange : ∀ m : Node, (SyntaxError.ofNode Harneet.language (Source.ofText d.text) m).first
        = m.start.bytes ∧ (SyntaxError.ofNode Harneet.language (Source.ofText d.text) m).last
          = m.stop.bytes := by
      intro m
      rw [SyntaxError.ofNode]
      simp only
      split <;> exact ⟨rfl, rfl⟩
    rw [(hrange n).1, (hrange n).2, (hrange n').1]
    exact hn
  · rw [herrors, List.map_eq_nil_iff]
    exact Tree.topProblems_eq_nil_iff Harneet.language hpaid

/-- The document of `(` in which the parenthesis has been replaced by a letter. -/
theorem Reached.syntaxErrors_eq_retyped : ∃ d, Reached Harneet.language ['('] d ∧ d.text = ['x']
    ∧ d.tree.syntaxErrors Harneet.language ['x']
        = (d.tree.outline Harneet.language).topProblems.map
          (SyntaxError.ofNode Harneet.language (Source.ofText ['x']))
    ∧ ((d.tree.syntaxErrors Harneet.language ['x']).Pairwise fun e e' =>
        e.first ≤ e'.first ∧ e.last ≤ e'.first)
    ∧ (d.tree.syntaxErrors Harneet.language ['x'] = [] ↔ d.tree.root.hasError = false) := by
  obtain ⟨d, hedit, htext, -⟩ := exists_edit_append Harneet.language
    (show (Document.ofText Harneet.language ['(']).text = [] ++ ['('] ++ [] from rfl) ['x']
  have hreached : Reached Harneet.language ['('] d := by
    have hsteps := (@Reached.ofText Harneet.language ['(']).edit (Text.byteLength [])
      (Text.byteLength ([] ++ ['('])) ['x']
    rw [hedit] at hsteps
    exact hsteps
  have hspec := Reached.syntaxErrors_eq hreached
  rw [show d.text = ['x'] from htext] at hspec
  exact ⟨d, hreached, htext, hspec⟩

end Document

end SyntaxKit
