import SyntaxKit.Proofs.Parse.Derived
import SyntaxKit.Proofs.Parse.Kept
import SyntaxKit.Proofs.Tree.Program

/-!
# Parsing is sound

If the tree of a text has no error, then the text is a program of the grammar, and all nodes of the
tree fit the grammar (`Language.sound_of_hasError`): what the tables have been built from
(`Generated`), what the lexical automaton reads (`Lexed`) and what the symbols stand for (`Agrees`)
is all that is used.  Harneet's tables meet these conditions (`Harneet.sound_parse`).
-/

namespace SyntaxKit

open Grammar

variable {lang : Language} {g : Listed} {text : List Char}

/-- The tree of a text says that it is a program of a grammar, and why: the root is a node of the
start rule, all nodes fit the grammar, and the text is spelled by tokens of the start rule. -/
structure Tree.Sound (lang : Language) (g : Grammar) (text : List Char) (t : Tree) : Prop where
  root : (t.root.letter lang).kind = .rule g.start
  nodes : ∀ o ∈ (t.outline lang).all, o.Fits lang g text
  program : g.IsProgram text

/-- The tree of a text without an error: it is over the start rule and follows the rules, it costs
nothing, and its tokens are laid out over the text. -/
structure Tree.Errorless (lang : Language) (g : Listed) (text : List Char) (t : Tree) :
    Prop where
  consistent : t.Consistent lang
  worded : t.Worded lang g
  costless : t.errorCost = 0
  start : lang.kindOf t.symbol = .rule g.start
  shown : lang.isVisible t.symbol = true
  laid : Token.Laid lang text [] t.tokens text

namespace Tree

/-- A root without error costs nothing. -/
theorem errorCost_of_root {t : Tree} (h : t.root.hasError = false) : t.errorCost = 0 := by
  have hpos : ¬0 < t.errorCost := of_decide_eq_false h
  omega

/-- What costs nothing hands that on to its children. -/
theorem Consistent.costless_of_mem {t c : Tree} (h : t.Consistent lang) (hcost : t.errorCost = 0)
    (hc : c ∈ t.children) : c.errorCost = 0 := by
  cases t with
  | token k => simp [children] at hc
  | branch b cs => exact (h.costless hcost).2 c hc

/-- The text that the tokens of a derived tree of the start rule are laid out over is a program if
the tree costs nothing. -/
theorem Derived.program (hlang : lang.Orderly) (hlossless : lang.Lossless)
    (hlexed : lang.Lexed g.toGrammar) (hagrees : lang.Agrees g)
    (hlist : g.list? (.rule g.start) = none) {b : Branch} {cs : List Tree}
    (h : (branch b cs).Derived lang g) (hconsistent : (branch b cs).Consistent lang)
    (hcost : b.errorCost = 0) (hstart : lang.kindOf b.symbol = .rule g.start)
    (hlaid : Token.Laid lang text [] (branch b cs).tokens text) : g.IsProgram text := by
  obtain ⟨w, hword, hkinds⟩ := h.word_lexical hagrees.lexical hlist hstart
  have hmissing := hconsistent.missing_of_costless hcost
  obtain ⟨part, rest, htext, hspells, hpart⟩ := hlaid.spells hlang hlossless hlexed
    fun k hk => ⟨h.of_mem_tokens k hk, hmissing k hk⟩
  rw [← hkinds] at hspells
  rw [List.nil_append] at htext
  exact ⟨w, rest, hword, hspells, htext ▸ hpart.imp_right (·.2)⟩

/-- A derived tree of the start rule that costs nothing is the tree of a text without an error, if its
tokens are laid out over the text, also when its lists are balanced. -/
theorem Derived.errorless (hagrees : lang.Agrees g) {b : Branch} {cs : List Tree}
    (h : (branch b cs).Derived lang g) (hconsistent : (branch b cs).Consistent lang)
    (hcost : b.errorCost = 0) (hstart : lang.kindOf b.symbol = .rule g.start)
    (hlaid : Token.Laid lang text [] (branch b cs).tokens text) (generation : Nat) :
    ((branch b cs).balance lang generation).Errorless lang g text := by
  obtain ⟨hconsistent', halike⟩ := hconsistent.balance generation
  obtain ⟨hworded, -⟩ := (h.worded hagrees.visible hagrees.lists).balance hconsistent generation
  have hsymbol : ((branch b cs).balance lang generation).symbol = b.symbol := halike.symbol
  have hiff := halike.errorCost_pos_iff hconsistent hconsistent'
  rw [show (branch b cs).errorCost = 0 from hcost] at hiff
  exact {
    consistent := hconsistent'
    worded := hworded
    costless := by omega
    start := hsymbol ▸ hstart
    shown := hsymbol ▸ hagrees.start _ (Every.of_branch h).bound.2 hstart
    laid := by rwa [tokens_balance] }

/-- **Every node of a tree without an error stands over a site** of a visible tree that follows the
rules, costs nothing and lies in the text. -/
theorem Errorless.exists_site {t : Tree} (h : t.Errorless lang g text) :
    ∀ o ∈ (t.outline lang).all, ∃ s : Site, s.tree.Consistent lang ∧ s.tree.Worded lang g
      ∧ s.tree.errorCost = 0 ∧ s.Lies lang text ∧ lang.isVisible s.tree.symbol = true
      ∧ o = .mk s.node (outlines lang (s.below lang)) := by
  intro o ho
  obtain ⟨s, hs, ⟨-, hsWorded, hsCost⟩, hlies, hshown, rfl⟩ := exists_site_of_laid
    (P := fun t => t.Consistent lang ∧ t.Worded lang g ∧ t.errorCost = 0)
    (fun t ht c hc => ⟨ht.1.of_mem hc, Every.of_mem ht.2.1 hc, ht.1.costless_of_mem ht.2.2 hc⟩)
    h.consistent ⟨h.consistent, h.worded, h.costless⟩ h.laid o ho
  refine ⟨s, hs, hsWorded, hsCost, hlies, ?_, rfl⟩
  rcases hshown with heq | hvisible
  · exact heq ▸ h.shown
  · exact hvisible

/-- A tree without an error says that its text is a program, if it is one. -/
theorem Errorless.sound (hlang : lang.Orderly) (hlexed : lang.Lexed g.toGrammar)
    (hagrees : lang.Agrees g) {t : Tree} (h : t.Errorless lang g text)
    (hprogram : g.IsProgram text) : t.Sound lang g.toGrammar text := by
  refine ⟨?_, fun o ho => ?_, hprogram⟩
  · rw [Node.letter_of_visible (show lang.isVisible t.root.tree.symbol = true from h.shown)]
    exact h.start
  · obtain ⟨s, -, hworded, hcost, hlies, hvisible, rfl⟩ := h.exists_site o ho
    exact hworded.fits hlang hlexed hagrees hcost hlies hvisible

end Tree

namespace Language

/-- A tree without error follows the rules, and its text is a program of the grammar. -/
theorem errorless_of_hasError (hlang : lang.Orderly) (hlossless : lang.Lossless)
    (hgen : lang.Generated g) (hlexed : lang.Lexed g.toGrammar) (hagrees : lang.Agrees g)
    (hlist : g.list? (.rule g.start) = none) (text : List Char)
    (h : (lang.parse text).root.hasError = false) :
    (lang.parse text).Errorless lang g text ∧ g.IsProgram text := by
  have hcost := Tree.errorCost_of_root h
  rcases @parse_eq_balance_or_unread lang (Law.derived lang g text) text hlang.someToken
    (fun env henv hsource => by
      subst henv
      exact Law.closed_derived hlang hlossless hsource hgen)
    with ⟨t, generation, ⟨⟨⟨hpaid, hlaid⟩, -⟩, hderived⟩, heq⟩ | ⟨n, heq⟩
  · obtain ⟨hconsistent, halike⟩ := hpaid.1.balance generation
    rw [heq] at hcost ⊢
    have hcostless : t.errorCost = 0 := by
      have hiff := halike.errorCost_pos_iff hpaid.1 hconsistent
      omega
    obtain ⟨htree, hstart, b, cs, rfl⟩ := hderived hcostless
    exact ⟨htree.errorless hagrees hpaid.1 hcostless hstart hlaid generation,
      htree.program hlang hlossless hlexed hagrees hlist hpaid.1 hcostless hstart hlaid⟩
  · rw [heq] at hcost
    exact absurd hcost (Nat.ne_of_gt (Tree.errorCost_ofChildren_pos _ (.inl rfl)))

/-- **Parsing is sound**: a tree without error is the tree of a program of the grammar. -/
theorem sound_of_hasError (hlang : lang.Orderly) (hlossless : lang.Lossless) (hgen : lang.Generated g)
    (hlexed : lang.Lexed g.toGrammar) (hagrees : lang.Agrees g)
    (hlist : g.list? (.rule g.start) = none) (text : List Char)
    (h : (lang.parse text).root.hasError = false) :
    (lang.parse text).Sound lang g.toGrammar text := by
  obtain ⟨herrorless, hprogram⟩ :=
    errorless_of_hasError hlang hlossless hgen hlexed hagrees hlist text h
  exact herrorless.sound hlang hlexed hagrees hprogram

end Language

namespace Harneet

/-- A name of a hidden rule is the name of no other rule. -/
theorem lookup_of_hidden {name : String} {r : Rule} (h : grammar.hidden.lookup name = some r) :
    grammar.rules.lookup name = none := by
  obtain ⟨front, back, hsplit, -⟩ := List.lookup_eq_some_iff.mp h
  have hmem : (name, r) ∈ grammar.hidden := by simp [hsplit]
  have hall : ∀ x ∈ grammar.hidden, grammar.rules.lookup x.1 = none := by decide +kernel
  exact hall _ hmem

set_option maxRecDepth 100000 in
/-- **The symbols of Harneet go together with its grammar.** -/
theorem agrees : language.Agrees listed where
  visible := {
    bound := by decide
    keeps := by decide +kernel
    token := by decide +kernel
    node := by decide +kernel
    hidden := fun k r h => by
      cases k with
      | rule name => exact h
      | literal text => simp [Listed.inner] at h
      | separator => simp [Listed.inner] at h }
  lexical := {
    bound := by decide
    keeps := by decide +kernel
    token := fun s hs _ hshown => absurd hs (by simpa using hshown)
    node := fun s _ _ _ => rfl
    hidden := fun k r h => by
      cases k with
      | rule name =>
        have hhidden : grammar.hidden.lookup name = some r := h
        show (grammar.rules ++ grammar.hidden).lookup name = some r
        rw [List.lookup_append, lookup_of_hidden hhidden, hhidden]
        rfl
      | literal text => simp [Listed.inner] at h
      | separator => simp [Listed.inner] at h }
  ends := by decide +kernel
  lists := by decide +kernel
  token := by decide +kernel
  start := by decide +kernel
  shows := by decide +kernel
  hidden := by decide +kernel

/-- **Parsing is sound for Harneet.** -/
theorem sound_parse (text : List Char)
    (h : (language.parse text).root.hasError = false) :
    (language.parse text).Sound language grammar text :=
  Language.sound_of_hasError orderly lossless generated lexed agrees (by decide +kernel) text h

/-- Soundness at a function that calls another one. -/
theorem sound_parse_function :
    (language.parse "function f() { g(1) }".toList).root.hasError = false
      ∧ (language.parse "function f() { g(1) }".toList).Sound language grammar
          "function f() { g(1) }".toList := by
  have h : (language.parse "function f() { g(1) }".toList).root.hasError = false := by
    decide +kernel
  exact ⟨h, sound_parse _ h⟩

end Harneet

end SyntaxKit
