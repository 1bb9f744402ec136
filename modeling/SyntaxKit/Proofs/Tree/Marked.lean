import SyntaxKit.Proofs.Tree.Edit
import SyntaxKit.Parse.Recover
import SyntaxKit.Parse.Run

/-!
# What is marked as standing beside the grammar

The parser marks every token that stands beside the grammar when it puts it into a tree, and no node
but text in error (`Tree.Marked`).  Labels and marks outlast balancing and editing, so what is taken
over from an earlier tree is marked as well.
-/

namespace SyntaxKit

variable {lang : Language}

namespace Tree

/-! ## Conditions that balancing keeps -/

section Balance

variable {onToken : Token → Prop} {onRoot : Branch → Prop}

theorem Every.resummarize (hroot : ∀ {b b' : Branch}, Branch.SameRoot b b' → onRoot b → onRoot b')
    {t : Tree} (h : t.Every onToken fun b _ => onRoot b) :
    (t.resummarize lang).Every onToken fun b _ => onRoot b := by
  cases h with
  | token root => exact .token root
  | @branch b cs root children =>
    exact .branch (hroot (Branch.sameRoot_summarize lang b cs) root) children

theorem Every.resummarizeLast
    (hroot : ∀ {b b' : Branch}, Branch.SameRoot b b' → onRoot b → onRoot b') {t : Tree}
    (h : t.Every onToken fun b _ => onRoot b) :
    (resummarizeLast lang t).Every onToken fun b _ => onRoot b := by
  rcases resummarizeLast_cases lang t with hsame | ⟨b, front, last, rfl, hlast⟩
  · rwa [hsame]
  · rw [hlast]
    refine Every.resummarize hroot (.branch h.of_branch fun c hc => ?_)
    rcases List.mem_append.mp hc with hc | hc
    · exact h.of_mem (List.mem_append_left _ hc)
    · rw [List.mem_singleton] at hc
      subst hc
      exact Every.resummarize hroot (h.of_mem (List.mem_append_right _ (List.mem_singleton_self _)))

theorem Every.of_rotated (hroot : ∀ {b b' : Branch}, Branch.SameRoot b b' → onRoot b → onRoot b')
    {t u : Tree} (hrotated : Rotated lang t u) (h : t.Every onToken fun b _ => onRoot b) :
    u.Every onToken fun b _ => onRoot b := by
  induction hrotated with
  | stay t => exact h
  | @turn b c g others cOthers gs last u _ _ _ ih =>
    have hchild := h.of_mem (List.mem_cons_self ..)
    have hgrandchild := hchild.of_mem (List.mem_cons_self ..)
    -- the child is now the last child of the grandchild
    have hdown : (Tree.branch c (last :: cOthers)).Every onToken fun b _ => onRoot b := by
      refine .branch hchild.of_branch fun d hd => ?_
      rcases List.mem_cons.mp hd with rfl | hd
      · exact hgrandchild.of_mem (by simp [children])
      · exact hchild.of_mem (List.mem_cons_of_mem _ hd)
    have hup : (Tree.branch g (gs ++ [Tree.branch c (last :: cOthers)])).Every onToken
        fun b _ => onRoot b := by
      refine .branch hgrandchild.of_branch fun d hd => ?_
      rcases List.mem_append.mp hd with hd | hd
      · exact hgrandchild.of_mem (List.mem_append_left _ hd)
      · rw [List.mem_singleton] at hd
        exact hd ▸ hdown
    refine Every.resummarize hroot (.branch h.of_branch fun d hd => ?_)
    rcases List.mem_cons.mp hd with rfl | hd
    · exact Every.resummarizeLast hroot (ih hup)
    · exact h.of_mem (List.mem_cons_of_mem _ hd)

/-- Balancing keeps to a condition on all tokens and on the labels of all branches. -/
theorem Every.balance (hroot : ∀ {b b' : Branch}, Branch.SameRoot b b' → onRoot b → onRoot b')
    {t : Tree} (h : t.Every onToken fun b _ => onRoot b) (generation : Nat) :
    (t.balance lang generation).Every onToken fun b _ => onRoot b := by
  induction hn : t.weight using Nat.strongRecOn generalizing t with
  | _ n ih =>
    have hbalanced : (balanceRoot lang generation t).Every onToken fun b _ => onRoot b :=
      balanceRoot_induction lang (R := fun _ u => u.Every onToken fun b _ => onRoot b) generation t h
        fun _ u v hu huv => Every.of_rotated hroot huv hu
    rw [balance_eq]
    cases hu : balanceRoot lang generation t with
    | token k =>
      rw [hu] at hbalanced
      exact hbalanced
    | branch b cs =>
      rw [hu] at hbalanced
      refine .branch hbalanced.of_branch fun d hd => ?_
      obtain ⟨c, hc, rfl⟩ := List.mem_map.mp hd
      have hchild := hbalanced.of_mem (show c ∈ (Tree.branch b cs).children from hc)
      rcases balanceChild_eq_or lang generation c with heq | heq
      · rw [heq]
        exact hchild
      · have hlt : c.weight < n := by
          rw [← hn, ← weight_balanceRoot lang generation t, hu, weight_branch]
          exact Nat.lt_succ_of_le (weight_le_of_mem hc)
        rw [heq]
        exact ih _ hlt hchild rfl

end Balance

/-! ## Marks -/

/-- Of the tokens, those that stand beside the grammar are marked; of the nodes only text in error
may be. -/
def Marked (lang : Language) (t : Tree) : Prop :=
  t.Every (fun k => k.extra = false → Parse.isExtraToken lang k.symbol = false)
    fun b _ => lang.tokenCount ≤ b.symbol ∧ (b.extra = true → b.symbol = Symbol.error)

theorem marked_ofChildren {generation : Nat} {symbol : Symbol} {production : Nat} {cs : List Tree}
    (hsymbol : lang.tokenCount ≤ symbol) (hcs : ∀ c ∈ cs, c.Marked lang) :
    (ofChildren lang generation symbol production cs).Marked lang := by
  have hroot := Branch.sameRoot_summarize lang (freshBranch generation symbol production) cs
  rw [ofChildren_eq]
  refine .branch ⟨?_, fun h => ?_⟩ hcs
  · rw [hroot.symbol]
    exact hsymbol
  · rw [hroot.extra] at h
    exact absurd h Bool.false_ne_true

theorem Marked.of_mem {t c : Tree} (h : t.Marked lang) (hc : c ∈ t.children) : c.Marked lang :=
  Every.of_mem h hc

theorem Marked.settle {t : Tree} (h : t.Marked lang) (ambiguous : Bool) (state : ParseState) :
    (Parse.settle ambiguous state t).Marked lang := by
  cases h with
  | token root => exact .token root
  | branch root children => cases ambiguous <;> exact .branch root children

/-- Text in error may be marked. -/
theorem Marked.setExtra_error {t : Tree} (h : t.Marked lang) (herror : t.symbol = Symbol.error)
    (hleaf : ∀ k, t ≠ .token k) : (t.setExtra true).Marked lang := by
  cases h with
  | @token k root => exact absurd rfl (hleaf k)
  | branch root children => exact .branch ⟨root.1, fun _ => herror⟩ children

/-- A token that is marked as standing beside the grammar, or does not stand beside it. -/
theorem marked_token {k : Token} (h : k.extra = false → Parse.isExtraToken lang k.symbol = false) :
    (token k).Marked lang := .token h

/-- What is marked as standing beside the grammar is a token or text in error. -/
theorem Marked.symbol_of_isExtra {t : Tree} (h : t.Marked lang) (hextra : t.isExtra = true)
    (hnode : ∀ k, t ≠ .token k) : t.symbol = Symbol.error := by
  cases h with
  | @token k root => exact absurd rfl (hnode k)
  | branch root children => exact root.2 hextra

/-- No node has the label of a token. -/
theorem Marked.tokenCount_le {t : Tree} (h : t.Marked lang) (hnode : ∀ k, t ≠ .token k) :
    lang.tokenCount ≤ t.symbol := by
  cases h with
  | @token k root => exact absurd rfl (hnode k)
  | branch root children => exact root.1

theorem Marked.firstPart {t : Tree} (h : t.Marked lang) (tooLarge : Tree → Bool) :
    (t.firstPart tooLarge).Marked lang :=
  Every.firstPart h tooLarge

theorem Marked.balance {t : Tree} (h : t.Marked lang) (generation : Nat) :
    (t.balance lang generation).Marked lang := by
  refine Every.balance (fun {b b'} hsame hb => ⟨?_, fun hextra => ?_⟩) h generation
  · rw [hsame.symbol]
    exact hb.1
  · rw [hsame.symbol]
    exact hb.2 (hsame.extra ▸ hextra)

/-- An edit changes no marks but that of being changed. -/
theorem Marked.edit {t : Tree} (h : t.Marked lang) (c : Change) : (t.edit c).Marked lang := by
  induction h generalizing c with
  | @token k root =>
    rw [Tree.edit, rebuild_eq, Change.step]
    split
    · next heq =>
      split at heq
      · obtain rfl := Rebuilt.done.inj heq
        exact .token root
      · obtain rfl := Rebuilt.done.inj heq
        exact .token root
    · next heq => split at heq <;> cases heq
  | @branch b cs root children ih =>
    have hwhole : (branch b cs).Marked lang := .branch root children
    rw [Tree.edit, rebuild_eq]
    by_cases hmiss : c.misses (branch b cs) = true
    · rw [Change.step, if_pos hmiss]
      exact hwhole
    · rw [Change.step, if_neg hmiss]
      refine .branch root fun d hd => ?_
      obtain ⟨⟨child, label⟩, hx, rfl⟩ := List.mem_map.mp hd
      have hchild : child ∈ cs := mem_of_mem_distribute hx
      cases label with
      | none => exact children child hchild
      | some c' => exact ih child hchild c'

end Tree

end SyntaxKit
