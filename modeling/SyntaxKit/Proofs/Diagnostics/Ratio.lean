import Mathlib.Algebra.Order.Field.Basic
import Mathlib.Data.Rat.Cast.Order
import SyntaxKit.Proofs.Parse.Parsed
import SyntaxKit.Proofs.Tree.Subtrees

/-!
# The error ratio

The syntax errors of a text and its error ratio are found by two walks over its tree: the one goes
only where there are errors and not into what it reports, the other goes everywhere.  Both see the
same tree.  The ratio counts each visible node once and each node in error once
(`Tree.total_errorRatio`, `Tree.errors_errorRatio`); the list has one entry for each of these that
stands below no other (`Tree.countP_unexpected`), and is empty of them only if the ratio is zero.
-/

namespace SyntaxKit

/-- The share as a number. -/
def ErrorRatio.value (r : ErrorRatio) : ℚ := r.errors / r.total

/-- Whether an error is text that did not fit the grammar. -/
def SyntaxError.isUnexpected (e : SyntaxError) : Bool := e.cause == .unexpected

namespace Tree

variable (lang : Language)

/-! ## The walk over all nodes -/

/-- The nodes of a tree are the entries of its outline. -/
theorem map_snd_entries_outline (t : Tree) :
    ((t.outline lang).entries []).map (·.2) = t.nodes lang := by
  rw [Outline.map_snd_entries, nodes, nodesWithin_eq]

/-- **Every visible node is counted once**, the root always being one. -/
theorem total_errorRatio (t : Tree) :
    (t.errorRatio lang).total = (subtreesOf t.isError t.children).countP (isShown lang) + 1 := by
  have hlength : (t.nodes lang).length
      = (((t.outline lang).entries []).map Outline.subtree).length := by
    rw [← map_snd_entries_outline, List.length_map, List.length_map]
  rw [map_entries_outline, List.length_cons, ← List.countP_eq_length_filter] at hlength
  rw [errorRatio_eq]
  exact hlength

/-- Among the visible subtrees are all of those that are in error. -/
theorem countP_filter_isShown {p : Bool × Tree → Bool} (hp : ∀ e, p e = true → e.2.isError = true)
    (es : List (Bool × Tree)) : (es.filter (isShown lang)).countP p = es.countP p := by
  rw [List.countP_filter]
  refine List.countP_congr fun e _ => ?_
  rw [Bool.and_eq_true, and_iff_left_iff_imp]
  exact fun hpe => isVisible_of_isError lang (hp e hpe)

/-- **Every node in error is counted once.** -/
theorem errors_errorRatio (t : Tree) :
    (t.errorRatio lang).errors = (t.subtrees false).countP fun e => e.2.isError := by
  have hcount : ((t.nodes lang).filter Node.isError).length
      = (((t.outline lang).entries []).map Outline.subtree).countP fun e => e.2.isError := by
    rw [← List.countP_eq_length_filter, ← map_snd_entries_outline, List.countP_map,
      List.countP_map]
    rfl
  rw [map_entries_outline, List.countP_cons, countP_filter_isShown lang fun _ h => h] at hcount
  rw [errorRatio_eq, subtrees_eq, Bool.false_or, List.countP_cons]
  exact hcount

theorem errors_le_total (t : Tree) : (t.errorRatio lang).errors ≤ (t.errorRatio lang).total := by
  rw [errorRatio_eq]
  exact List.length_filter_le ..

/-! ## The walk to the errors -/

variable {lang}

theorem syntaxErrors_eq_map {t : Tree} (h : t.Paid lang) (text : List Char) :
    t.syntaxErrors lang text
      = (t.outline lang).topProblems.map (SyntaxError.ofNode lang (Source.ofText text)) := by
  rw [syntaxErrors, problems_eq lang h]
  split
  · next hnil => rw [hnil, List.map_nil]
  · rfl

/-- A consistent tree that is in error is not missing. -/
theorem Consistent.isMissing_of_isError {t : Tree} (h : t.Consistent lang)
    (herror : t.isError = true) : t.isMissing = false := by
  cases t with
  | token k => exact (Every.of_token h).found (by simpa [isError, symbol] using herror)
  | branch b cs => rfl

/-- What is reported of a problem: text that did not fit if it is in error, else what is missing. -/
theorem isUnexpected_ofNode {source : Source} {n : Node} (h : n.tree.Consistent lang)
    (hproblem : isProblem n = true) :
    (SyntaxError.ofNode lang source n).isUnexpected = n.isError := by
  by_cases herror : n.isError = true
  · have hfound : n.isMissing = false := h.isMissing_of_isError herror
    simp [SyntaxError.ofNode, SyntaxError.isUnexpected, hfound, herror]
  · have hmissing : n.isMissing = true := by simpa [isProblem, herror] using hproblem
    simp [SyntaxError.ofNode, SyntaxError.isUnexpected, hmissing, herror]

theorem consistent_of_mem_entries {t : Tree} (h : t.Consistent lang) {e : List Node × Node}
    (he : e ∈ (t.outline lang).entries []) : e.2.tree.Consistent lang := by
  have hmem := List.mem_map_of_mem (f := Outline.subtree) he
  rw [map_entries_outline, List.mem_cons] at hmem
  rcases hmem with hroot | hbelow
  · rw [show e.2.tree = t from congrArg Prod.snd hroot]
    exact h
  · exact Every.of_mem_subtreesOf (fun c hc => Every.of_mem h hc) (List.mem_filter.mp hbelow).1

/-- **One entry is reported for each outermost node in error.** -/
theorem countP_unexpected {t : Tree} (h : t.Paid lang) (text : List Char) :
    (t.syntaxErrors lang text).countP SyntaxError.isUnexpected
      = (t.subtrees false).countP isOutermost := by
  have hentries : (t.syntaxErrors lang text).countP SyntaxError.isUnexpected
      = (((t.outline lang).entries []).map Outline.subtree).countP isOutermost := by
    rw [syntaxErrors_eq_map h, Outline.topProblems, List.countP_map, List.countP_map,
      List.countP_map, List.countP_filter]
    refine List.countP_congr fun e he => ?_
    have habove : (e.1.all fun n => !n.isError) = !e.1.any Node.isError := by
      rw [List.not_any_eq_all_not]
    rw [Function.comp_apply, Function.comp_apply, Function.comp_apply, Outline.isTop,
      isOutermost, Outline.subtree, habove]
    by_cases hproblem : isProblem e.2 = true
    · rw [isUnexpected_ofNode (consistent_of_mem_entries h.1 he) hproblem, hproblem,
        Bool.true_and, Node.isError]
    · have herror : e.2.tree.isError = false := by
        simp only [isProblem, Bool.or_eq_true, not_or, Bool.not_eq_true] at hproblem
        exact hproblem.1
      simp [hproblem, herror]
  have hinside : ∀ e, isOutermost e = true → e.2.isError = true :=
    fun e houtermost => (Bool.and_eq_true_iff.mp houtermost).1
  rw [hentries, map_entries_outline, List.countP_cons, countP_filter_isShown lang hinside,
    subtrees_eq, Bool.false_or, List.countP_cons]

/-- There is a node in error exactly if one is reported. -/
theorem errors_pos_iff {t : Tree} (h : t.Paid lang) (text : List Char) :
    0 < (t.errorRatio lang).errors ↔
      ∃ e ∈ t.syntaxErrors lang text, e.isUnexpected = true := by
  rw [← List.countP_pos_iff, countP_unexpected h, errors_errorRatio, List.countP_pos_iff,
    List.countP_pos_iff]
  constructor
  · rintro ⟨e, he, herror⟩
    exact exists_isOutermost he herror
  · rintro ⟨e, he, houtermost⟩
    exact ⟨e, he, (Bool.and_eq_true_iff.mp houtermost).1⟩

/-- Where nothing is reported, no node is in error. -/
theorem errors_eq_zero {t : Tree} (h : t.Paid lang) {text : List Char}
    (hnil : t.syntaxErrors lang text = []) : (t.errorRatio lang).errors = 0 := by
  by_contra herrors
  obtain ⟨e, he, -⟩ := (errors_pos_iff h text).mp (Nat.pos_of_ne_zero herrors)
  simp [hnil] at he

/-- In a tree that pays for its errors the ratio counts what the list of errors tells. -/
theorem Paid.errorRatio_spec {t : Tree} (h : t.Paid lang) (text : List Char) {ratio : ErrorRatio}
    (hratio : t.errorRatio lang = ratio) :
    ratio.total = (subtreesOf t.isError t.children).countP (isShown lang) + 1
      ∧ ratio.errors = (t.subtrees false).countP (fun e => e.2.isError)
      ∧ 0 ≤ ratio.value ∧ ratio.value ≤ 1
      ∧ (t.syntaxErrors lang text).countP SyntaxError.isUnexpected
        + (t.subtrees false).countP (fun e => e.2.isError && e.1) = ratio.errors
      ∧ (0 < ratio.value ↔ ∃ e ∈ t.syntaxErrors lang text, e.isUnexpected = true) := by
  have hcounted := total_errorRatio lang t
  have herrors := errors_errorRatio lang t
  have hle := errors_le_total lang t
  have hpos := errors_pos_iff h text
  rw [hratio] at hcounted herrors hle hpos
  have htotal : 0 < (ratio.total : ℚ) := by
    rw [hcounted]
    exact_mod_cast Nat.succ_pos _
  refine ⟨hcounted, herrors, ?_, ?_, ?_, ?_⟩
  · exact div_nonneg (Nat.cast_nonneg _) htotal.le
  · exact (div_le_one htotal).mpr (by exact_mod_cast hle)
  · rw [countP_unexpected h, countP_isOutermost_add, herrors]
  · rw [← hpos, ErrorRatio.value, div_pos_iff_of_pos_right htotal, Nat.cast_pos]

end Tree

namespace Harneet

/-- The tree of a text pays for its errors. -/
theorem paid_parse (text : List Char) : (language.parse text).Paid language :=
  (Language.parsed_parse orderly (Cutting.suits_betweenCharacters _ text)).paid

/-- **The error ratio counts the same tree as the list of errors.**  For every text it is the number
of nodes in error over the number of all visible nodes, of which there is at least one; so it lies
between zero and one.  The list has an entry for each node in error but those that stand below
another one, and the ratio is positive exactly if there is such an entry. -/
theorem errorRatio_parse (text : List Char) :
    let t := language.parse text
    let ratio := t.errorRatio language
    let reported := t.syntaxErrors language text
    let subtrees := t.subtrees false
    ratio.total = (Tree.subtreesOf t.isError t.children).countP (Tree.isShown language) + 1
      ∧ ratio.errors = subtrees.countP (fun e => e.2.isError)
      ∧ 0 ≤ ratio.value ∧ ratio.value ≤ 1
      ∧ reported.countP SyntaxError.isUnexpected
        + subtrees.countP (fun e => e.2.isError && e.1) = ratio.errors
      ∧ (0 < ratio.value ↔ ∃ e ∈ reported, e.isUnexpected = true) := by
  intro t ratio reported subtrees
  exact (paid_parse text).errorRatio_spec text rfl

end Harneet

end SyntaxKit
