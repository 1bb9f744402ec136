import SyntaxKit.Proofs.Parse.Sound

/-!
# What every character belongs to

In the tree of a text without an error every character that is not blank belongs to a visible token
(`Tree.Errorless.exists_token`).  A literal that stands in no rule but choices of literals is all that
its parent has below it (`Tree.Errorless.exists_parent`).  So if every visible token has one of some
symbols or else is such a literal, and the parents of these have one of the symbols, then a small
node with one of the symbols is over each of these characters (`Tree.Errorless.exists_small`).
-/

namespace SyntaxKit

open Grammar

variable {lang : Language} {g : Listed} {text : List Char}

/-- A literal stands in no rule but choices of literals, and not beside the grammar. -/
def Grammar.isLone (g : Grammar) (literal : String) : Bool :=
  (g.rules.all fun x => !x.2.mentions (.literal literal) || x.2.isLiteral && x.1 != g.start)
    && (g.hidden.all fun x => !x.2.mentions (.literal literal))
    && !g.extras.contains (.text literal.toList)

namespace Outline

theorem mem_allOf_of_mem {c : Outline} {os : List Outline} (h : c ∈ os) : c ∈ allOf os := by
  induction os with
  | nil => simp at h
  | cons o os ih =>
    rw [allOf_cons, List.mem_append]
    rcases List.mem_cons.mp h with rfl | h
    · cases c
      exact .inl (by simp)
    · exact .inr (ih h)

/-- A node that is above no others, or only above one that is. -/
def IsSmall (o : Outline) : Prop :=
  o.children = [] ∨ ∃ leaf, o.children = [leaf] ∧ leaf.children = []

mutual

theorem mem_leaves {n : Node} : ∀ {o : Outline}, n ∈ o.leaves →
    ∃ o' ∈ o.all, o'.children = [] ∧ o'.node = n
  | mk n' [], h => by
    rw [leaves_mk_nil, List.mem_singleton] at h
    exact ⟨mk n' [], by simp, rfl, h.symm⟩
  | mk n' (o :: os), h => by
    rw [leaves_mk n' (by simp)] at h
    obtain ⟨o', ho', hleaf⟩ := mem_leavesOf h
    exact ⟨o', all_mk n' _ ▸ List.mem_cons_of_mem _ ho', hleaf⟩

theorem mem_leavesOf {n : Node} : ∀ {os : List Outline}, n ∈ leavesOf os →
    ∃ o' ∈ allOf os, o'.children = [] ∧ o'.node = n
  | [], h => by simp at h
  | o :: os, h => by
    rw [leavesOf_cons, List.mem_append] at h
    rcases h with h | h
    · obtain ⟨o', ho', hleaf⟩ := mem_leaves h
      exact ⟨o', by simp [ho'], hleaf⟩
    · obtain ⟨o', ho', hleaf⟩ := mem_leavesOf h
      exact ⟨o', by simp [ho'], hleaf⟩

end

mutual

/-- Whatever is below the top has a parent. -/
theorem exists_parent {o' : Outline} : ∀ {o : Outline}, o' ∈ o.all →
    o' = o ∨ ∃ p ∈ o.all, o' ∈ p.children
  | mk n os, h => by
    rw [all_mk, List.mem_cons] at h
    rcases h with h | h
    · exact .inl h
    · rcases exists_parent_of_mem_allOf h with hos | ⟨p, hp, hchild⟩
      · exact .inr ⟨mk n os, by simp, hos⟩
      · exact .inr ⟨p, by simp [hp], hchild⟩

theorem exists_parent_of_mem_allOf {o' : Outline} : ∀ {os : List Outline}, o' ∈ allOf os →
    o' ∈ os ∨ ∃ p ∈ allOf os, o' ∈ p.children
  | [], h => by simp at h
  | o :: os, h => by
    rw [allOf_cons, List.mem_append] at h
    rcases h with h | h
    · rcases exists_parent h with rfl | ⟨p, hp, hchild⟩
      · exact .inl (List.mem_cons_self ..)
      · exact .inr ⟨p, by simp [hp], hchild⟩
    · rcases exists_parent_of_mem_allOf h with hos | ⟨p, hp, hchild⟩
      · exact .inl (List.mem_cons_of_mem _ hos)
      · exact .inr ⟨p, by simp [hp], hchild⟩

end

mutual

/-- What is right below something that is in an outline is in it too. -/
theorem mem_all_of_child {p c : Outline} (hc : c ∈ p.children) : ∀ {o : Outline}, p ∈ o.all → c ∈ o.all
  | mk n os, h => by
    rw [all_mk, List.mem_cons] at h ⊢
    rcases h with rfl | h
    · exact .inr (mem_allOf_of_mem hc)
    · exact .inr (mem_allOf_of_child hc h)

theorem mem_allOf_of_child {p c : Outline} (hc : c ∈ p.children) :
    ∀ {os : List Outline}, p ∈ allOf os → c ∈ allOf os
  | [], h => by simp at h
  | o :: os, h => by
    rw [allOf_cons, List.mem_append] at h ⊢
    exact h.imp (mem_all_of_child hc) (mem_allOf_of_child hc)

end

/-- Everything below a nested outline is nested. -/
theorem Nested.of_mem_all {o : Outline} (h : o.Nested) : ∀ p ∈ o.all, p.Nested := by
  induction h with
  | @mk n os inside ordered below ih =>
    have hall : ∀ os', (∀ o ∈ os', o ∈ os) → ∀ p ∈ allOf os', p.Nested := by
      intro os'
      induction os' with
      | nil => simp
      | cons o os' ihos =>
        intro hsub p hp
        obtain ⟨ho, hos'⟩ := List.forall_mem_cons.mp hsub
        rw [allOf_cons, List.mem_append] at hp
        rcases hp with hp | hp
        · exact ih o ho p hp
        · exact ihos hos' p hp
    intro p hp
    rw [all_mk, List.mem_cons] at hp
    rcases hp with rfl | hp
    · exact .mk inside ordered below
    · exact hall os (fun o ho => ho) p hp

/-- What a node shows its parent shows too. -/
theorem Nested.shows {o o' : Outline} (h : o'.Nested) (ho : o ∈ o'.children) {front : List Char}
    {c : Char} (hshows : o.node.Shows front c) : o'.node.Shows front c := by
  cases h with
  | mk inside _ _ =>
    obtain ⟨hstart, hstop⟩ := inside o ho
    exact ⟨Nat.le_trans hstart hshows.1, Nat.le_trans hshows.2 hstop⟩

end Outline

namespace Tree

/-- What a node shows is blank or shown by a leaf below it, unless the node stands for a token. -/
theorem Site.Lies.shown_below (hlossless : lang.Lossless) {s : Site} (hs : s.tree.Consistent lang)
    (h : s.Lies lang text) {b : Branch} {cs : List Tree} (htree : s.tree = .branch b cs)
    {front back : List Char} {c : Char} (htext : text = front ++ c :: back)
    (hshows : s.node.Shows front c) : Text.IsBlankAt front c
      ∨ ∃ n ∈ Outline.leavesOf (outlines lang (s.below lang)), n.Shows front c := by
  obtain ⟨before, after, hat, hlaid⟩ := h
  obtain ⟨pad, body, hafter, hstart, hstop⟩ := exists_ends hs hat.2 hlaid
  have htokens : s.tree.tokens = tokensOf s.tree.children := by
    rw [htree, children, tokens_branch]
  have hshown := shown_outlines hlossless (s.below lang) s.offset before after
    (sited_childSites lang _ _ _ _ _ _) hat.2
    (fun s' hs' => hs.of_mem (Site.tree_mem_of_below lang hs'))
    (by rw [s.map_tree_below lang, ← htokens]; exact hlaid)
  obtain ⟨hlow, hhigh⟩ := hshows
  rw [hstart, Extent.bytes_ofText, Text.byteLength_append] at hlow
  rw [hstop, Extent.bytes_ofText, ← hafter] at hhigh
  have hpos := c.utf8Size_pos
  exact hshown front c back htext (by omega) (by omega)

namespace Errorless

variable {t : Tree}

/-- **Every character that is not blank belongs to a visible token.** -/
theorem exists_token (hlossless : lang.Lossless) (h : t.Errorless lang g text)
    {front back : List Char} {c : Char} (htext : text = front ++ c :: back) :
    Text.IsBlankAt front c ∨ ∃ o ∈ (t.outline lang).all, o.children = [] ∧ o.node.Shows front c
      ∧ ∃ k, o.node.tree = .token k ∧ k.Derived lang g ∧ lang.isVisible k.symbol = true := by
  rcases (keeps_of_laid hlossless h.consistent h.laid).leaves front c back htext with
    hblank | ⟨n, hn, hshows⟩
  · exact .inl hblank
  · obtain ⟨o, ho, hleaf, rfl⟩ := Outline.mem_leaves hn
    obtain ⟨s, hs, hworded, -, hlies, hvisible, rfl⟩ := h.exists_site o ho
    cases htree : s.tree with
    | token k =>
      refine .inr ⟨_, ho, hleaf, hshows, k, htree, Every.of_token (htree ▸ hworded), ?_⟩
      rwa [htree] at hvisible
    | branch b cs =>
      -- nothing shows below the node, so there is no other text in it
      rcases hlies.shown_below hlossless hs htree htext hshows with hblank | ⟨n, hn, -⟩
      · exact .inl hblank
      · rw [show outlines lang (s.below lang) = [] from hleaf] at hn
        simp at hn

/-- A literal that is lone does not stand beside the grammar. -/
theorem grammar_of_isLone {k : Token} (hk : k.Derived lang g) {literal : String}
    (hkind : lang.kindOf k.symbol = .literal literal) (hlone : g.isLone literal = true)
    (hend : lang.isVisible Symbol.endOfText = false) : k.extra = false := by
  by_contra hextra
  have hsymbol : k.symbol ≠ Symbol.endOfText := by
    intro heq
    have hvisible := Language.isVisible_of_literal hkind
    rw [heq, hend] at hvisible
    simp at hvisible
  obtain ⟨p, hp, hpattern⟩ := hk.extra (by simpa using hextra) hsymbol
  rw [hkind, Grammar.pattern?, Option.some.injEq] at hpattern
  simp only [Grammar.isLone, Bool.and_eq_true, Bool.not_eq_true', List.contains_eq_mem,
    decide_eq_false_iff_not] at hlone
  exact hlone.2 (hpattern ▸ hp)

/-- What has a lone literal among its words is a choice of literals, and not the start rule. -/
theorem isLiteral_of_isLone {literal : String} (hlone : g.isLone literal = true) {k : Kind}
    {r : Rule} (hr : g.rule? k = some r) {w : List Letter} (hword : Word g.visible none r w)
    {l : Letter} (hl : l ∈ w) (hkind : l.kind = .literal literal) :
    r.isLiteral = true ∧ k ≠ .rule g.start := by
  simp only [Grammar.isLone, Bool.and_eq_true, List.all_eq_true, Bool.or_eq_true,
    Bool.not_eq_true', bne_iff_ne] at hlone
  obtain ⟨⟨hrules, hhidden⟩, -⟩ := hlone
  have hlookup : ∀ {name : String} {r : Rule} {rules : List (String × Rule)},
      rules.lookup name = some r → (name, r) ∈ rules := by
    intro name r rules h
    obtain ⟨before, after, rfl, -⟩ := List.lookup_eq_some_iff.mp h
    simp
  have hmentions : r.mentions (.literal literal) = true := by
    rcases hword.mentions (fun _ => rfl) hl with hr | ⟨k', r', hexpand, hmentions⟩
    · exact hkind ▸ hr
    · rw [hkind] at hmentions
      cases k' with
      | rule name => exact absurd (hmentions.symm.trans (hhidden _ (hlookup hexpand))) (by simp)
      | literal _ => simp [Grammar.visible] at hexpand
      | separator =>
        obtain rfl : Rule.blank = r' := Option.some.inj hexpand
        simp [Rule.mentions] at hmentions
  cases k with
  | rule name =>
    rcases List.mem_append.mp (hlookup hr) with hmem | hmem
    · rcases hrules _ hmem with hnot | ⟨hliteral, hstart⟩
      · exact absurd (hmentions.symm.trans hnot) (by simp)
      · exact ⟨hliteral, fun heq => hstart (Kind.rule.inj heq)⟩
    · exact absurd (hmentions.symm.trans (hhidden _ hmem)) (by simp)
  | literal _ => simp [Grammar.rule?] at hr
  | separator => simp [Grammar.rule?] at hr

/-- **A lone literal is all that its parent has below it**, and its parent is a choice of
literals. -/
theorem exists_parent (hagrees : lang.Agrees g) (h : t.Errorless lang g text) {o : Outline}
    (ho : o ∈ (t.outline lang).all) {k : Token} (htoken : o.node.tree = .token k)
    (hk : k.Derived lang g) {literal : String} (hkind : lang.kindOf k.symbol = .literal literal)
    (hlone : g.isLone literal = true) : ∃ o' ∈ (t.outline lang).all, o'.children = [o]
      ∧ lang.isVisible o'.node.tree.symbol = true ∧ o'.node.tree.symbol < lang.symbols.size
      ∧ ∃ r, g.rule? (lang.kindOf o'.node.tree.symbol) = some r ∧ r.isLiteral = true := by
  rcases Outline.exists_parent ho with rfl | ⟨o', ho', hchild⟩
  · -- the root follows a rule
    have hstart := h.start
    rw [show t = .token k from htoken, symbol, hkind] at hstart
    simp at hstart
  obtain ⟨s, -, hworded, -, -, hvisible, rfl⟩ := h.exists_site o' ho'
  have hletters := letters_mk hworded
  cases htree : s.tree with
  | token k' =>
    have hnil : s.below lang = [] := by simp [Site.below, htree, children, childSites]
    simp [Outline.children, hnil] at hchild
  | branch b cs =>
    have hb : b.Worded lang g cs := Every.of_branch (htree ▸ hworded)
    rw [htree] at hletters hvisible
    obtain ⟨r, hr, hword⟩ := hb.word hvisible
    have hletter : ⟨lang.kindOf k.symbol, o.node.field⟩
        ∈ lettersOf lang lang.isVisible none b.production cs 0 := by
      have hshown : lang.isVisible o.node.tree.symbol = true := by
        rw [htoken]
        exact Language.isVisible_of_literal hkind
      have hgrammar : o.node.isExtra = false := by
        rw [Node.isExtra, htoken]
        exact grammar_of_isLone hk hkind hlone hagrees.ends
      have heq := Node.letter_of_visible hshown
      rw [htoken] at heq
      refine hletters ▸ List.mem_map.mpr ⟨o.node, List.mem_filter.mpr ⟨?_, ?_⟩, heq⟩
      · exact List.mem_map_of_mem hchild
      · simp [hgrammar]
    obtain ⟨hliteral, hstart⟩ := isLiteral_of_isLone hlone hr hword hletter hkind
    obtain ⟨c, rfl, hshown, hbound⟩ := hb.single hvisible hstart r hr hliteral
    -- what is below the node is the one token
    obtain ⟨s', hs'⟩ : ∃ s', s.below lang = [s'] := by
      have hmap := s.map_tree_below lang
      rw [htree] at hmap
      obtain ⟨s', hs', -⟩ := List.map_eq_singleton_iff.mp hmap
      exact ⟨s', hs'⟩
    have hs'tree : s'.tree = c := by
      have hmap := s.map_tree_below lang
      rw [htree, hs'] at hmap
      simpa [children] using hmap
    have hone : outlines lang (s.below lang) = [.mk s'.node (outlines lang (s'.below lang))] := by
      rw [hs', outlines_cons_visible lang (hs'tree ▸ hshown), outlines_nil]
    refine ⟨_, ho', ?_, ?_, ?_, r, ?_, hliteral⟩
    · rw [Outline.children, hone] at hchild ⊢
      rw [List.mem_singleton.mp hchild]
    · rw [Outline.node, Site.node, htree]
      exact hvisible
    · rw [Outline.node, Site.node, htree]
      exact hb.bound.2
    · rw [Outline.node, Site.node, htree]
      exact hr

/-- **A small node with a wanted symbol is over every character that is not blank**, if all
visible tokens but lone literals have a wanted symbol, and so do all choices of literals. -/
theorem exists_small (hlossless : lang.Lossless) (hagrees : lang.Agrees g)
    (h : t.Errorless lang g text) {wanted : Symbol → Prop}
    (htoken : ∀ s < lang.tokenCount, lang.isVisible s = true → wanted s
      ∨ ∃ literal, lang.kindOf s = .literal literal ∧ g.isLone literal = true)
    (hliteral : ∀ s < lang.symbols.size, lang.isVisible s = true →
      ∀ r, g.rule? (lang.kindOf s) = some r → r.isLiteral = true → wanted s)
    {front back : List Char} {c : Char} (htext : text = front ++ c :: back) :
    Text.IsBlankAt front c ∨ ∃ o ∈ (t.outline lang).all, o.IsSmall ∧ o.node.Shows front c
      ∧ wanted o.node.tree.symbol := by
  rcases h.exists_token hlossless htext with hblank | ⟨o, ho, hleaf, hshows, k, htree, hk, hvisible⟩
  · exact .inl hblank
  refine .inr ?_
  rcases htoken _ hk.bound hvisible with hwanted | ⟨literal, hkind, hlone⟩
  · exact ⟨o, ho, .inl hleaf, hshows, by rw [htree]; exact hwanted⟩
  · obtain ⟨o', ho', hchildren, hshown, hbound, r, hr, hrule⟩ :=
      h.exists_parent hagrees ho htree hk hkind hlone
    have hnested := (nested_outline lang h.consistent).of_mem_all o' ho'
    refine ⟨o', ho', .inr ⟨o, hchildren, hleaf⟩, hnested.shows ?_ hshows, ?_⟩
    · rw [hchildren]
      exact List.mem_singleton_self o
    · exact hliteral _ hbound hshown r hr hrule

end Errorless

end Tree

end SyntaxKit
