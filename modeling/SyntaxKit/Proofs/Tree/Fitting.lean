import SyntaxKit.Proofs.Language.Lexed
import SyntaxKit.Proofs.Tree.Cover
import SyntaxKit.Proofs.Tree.Worded

/-!
# Nodes that fit a grammar

A node fits a grammar if the nodes below it, extras apart, are a word of its rule, and if the text of
a leaf is one of its token (`Outline.Fits`).  The nodes below another one are those that its tree
shows (`Tree.letters_mk`), so in a tree that follows the rules and costs nothing all nodes fit
(`Tree.Worded.fits`).
-/

namespace SyntaxKit

open Grammar Lexer

variable {lang : Language} {g : Listed} {text : List Char}

/-- A node as its parent sees it. -/
def Node.letter (lang : Language) (n : Node) : Letter :=
  ⟨if n.isNamed lang then .rule (n.kind lang) else .literal (n.kind lang), n.field⟩

/-- The nodes below a node as it sees them, without those that stand beside the grammar. -/
def Outline.letters (lang : Language) (o : Outline) : List Letter :=
  ((o.children.map Outline.node).filter fun n => !n.isExtra).map (Node.letter lang)

/-- The text of a node is one that a pattern stands for. -/
def Node.Reads (text : List Char) (p : Pattern) (n : Node) : Prop :=
  ∃ front body, front ++ body <+: text ∧ n.start = Extent.ofText front
    ∧ n.stop = Extent.ofText (front ++ body) ∧ p.Matches body

/-- A node fits a grammar: if it has a rule, then what is below it is a word of the rule, and if
nothing is below it, then its text is one of its token.  Only the start rule may have nothing below
it. -/
structure Outline.Fits (lang : Language) (g : Grammar) (text : List Char) (o : Outline) :
    Prop where
  rule : o.node.isNamed lang = true → ∀ r, g.rules.lookup (o.node.kind lang) = some r →
    Word g.visible none r (o.letters lang)
  leaf : o.children = [] →
    (∃ p, g.pattern? (o.node.letter lang).kind = some p ∧ o.node.Reads text p)
      ∨ (o.node.letter lang).kind = .rule g.start

/-- The symbols of a language go together with the kinds of a grammar: its nodes and its tokens may
be read off a derived tree, no token has a rule, and only the start rule may show nothing. -/
structure Language.Agrees (lang : Language) (g : Listed) : Prop where
  visible : Cuts lang g lang.isVisible g.visible
  lexical : Cuts lang g (fun s => decide (s < lang.tokenCount)) g.lexical
  ends : lang.isVisible Symbol.endOfText = false
  lists : ∀ s < lang.symbols.size, lang.tokenCount ≤ s → lang.visibility s = .auxiliary →
    g.list? (lang.kindOf s) ≠ none
  token : ∀ s < lang.tokenCount, g.rule? (lang.kindOf s) = none
  start : ∀ s < lang.symbols.size, lang.kindOf s = .rule g.start → lang.isVisible s = true
  shows : ∀ s < lang.symbols.size, lang.tokenCount ≤ s → lang.isVisible s = true →
    lang.kindOf s = .rule g.start
      ∨ ∀ r ∈ g.rule? (lang.kindOf s), r.mayVanish (· = .separator) = false
  hidden : ∀ x ∈ g.hidden, x.2.mayVanish (· = .separator) = false

theorem Language.kindOf_of_visible {s : Symbol} (h : lang.isVisible s = true) :
    lang.kindOf s = if lang.isNamed s then .rule (lang.symbolName s)
      else .literal (lang.symbolName s) := by
  rw [Language.isVisible] at h
  rw [Language.kindOf, Language.isNamed]
  cases hvisibility : lang.visibility s <;> simp_all

theorem Node.letter_of_visible {n : Node} (h : lang.isVisible n.tree.symbol = true) :
    n.letter lang = ⟨lang.kindOf n.tree.symbol, n.field⟩ := by
  rw [letter, Language.kindOf_of_visible h]
  rfl

namespace Tree

/-! ## What is below a node -/

/-- What is shown of a site, unless it stands beside the grammar. -/
def Site.letters (lang : Language) (s : Site) : List Letter :=
  if s.tree.isExtra then [] else s.tree.letters lang lang.isVisible s.field

theorem flatMap_childSites (production depth : Nat) (field : Option String) (ts : List Tree)
    (offset : Extent) (index : Nat) :
    (childSites lang production depth field ts offset index).flatMap (Site.letters lang)
      = lettersOf lang lang.isVisible field production ts index := by
  induction ts generalizing offset index with
  | nil => rfl
  | cons t ts ih =>
    rw [childSites, lettersOf_cons]
    split
    · next hextra => simp [Site.letters, hextra, ih]
    · next hextra => simp [Site.letters, hextra, ih]

/-- What stands beside the grammar is a token, and so nothing is below it. -/
theorem Worded.children_of_extra {t : Tree} (h : t.Worded lang g) (hextra : t.isExtra = true) :
    t.children = [] := by
  cases h with
  | token root => rfl
  | branch root children => exact absurd (hextra.symm.trans root.grammar) (by simp)

/-- **The outlines of some sites are what their trees show.** -/
theorem letters_outlines (sites : List Site) : (∀ s ∈ sites, s.tree.Worded lang g) →
    (((outlines lang sites).map Outline.node).filter fun n => !n.isExtra).map (Node.letter lang)
      = sites.flatMap (Site.letters lang) := by
  induction sites using sites_induction lang with
  | nil => simp
  | visible s rest h below ih =>
    intro hsites
    have hrest := ih fun s hs => hsites s (List.mem_cons_of_mem _ hs)
    have hletter : s.node.letter lang = ⟨lang.kindOf s.tree.symbol, s.field⟩ :=
      Node.letter_of_visible h
    have hsame : s.node.isExtra = s.tree.isExtra := rfl
    rw [outlines_cons_visible lang h, List.map_cons, List.flatMap_cons, ← hrest, Site.letters]
    cases hextra : s.tree.isExtra with
    | true => simp [Outline.node, hsame, hextra]
    | false => simp [Outline.node, hsame, hextra, hletter, letters_of_shown _ h]
  | invisible s rest h ih =>
    intro hsites
    have hs := hsites s (List.mem_cons_self ..)
    have hall := ih fun s' hs' => by
      rcases List.mem_append.mp hs' with hs' | hs'
      · exact Every.of_mem hs (Site.tree_mem_of_inside lang hs')
      · exact hsites s' (List.mem_cons_of_mem _ hs')
    rw [outlines_cons_invisible lang h, hall, List.flatMap_append, List.flatMap_cons]
    congr 1
    rw [Site.inside, flatMap_childSites, Site.letters]
    split
    · next hextra => rw [hs.children_of_extra hextra, lettersOf_nil]
    · cases htree : s.tree with
      | token k =>
        rw [htree] at h
        rw [letters_token, if_neg (by simpa [symbol] using h), children, lettersOf_nil]
      | branch b cs =>
        rw [htree] at h
        rw [letters_branch, if_neg (by simpa [symbol] using h)]
        rfl

theorem letters_mk {s : Site} (hs : s.tree.Worded lang g) :
    (Outline.mk s.node (outlines lang (s.below lang))).letters lang
      = lettersOf lang lang.isVisible none s.tree.production s.tree.children 0 := by
  have hall := letters_outlines (s.below lang) fun s' hs' =>
    Every.of_mem hs (Site.tree_mem_of_below lang hs')
  rw [Site.below, flatMap_childSites] at hall
  exact hall

/-! ## Fitting -/

/-- What a token that is a leaf reads is one of its own texts. -/
theorem reads_of_token (hlang : lang.Orderly) (hlexed : lang.Lexed g.toGrammar)
    (hagrees : lang.Agrees g) {k : Token} (hk : k.Derived lang g) (hmissing : k.missing = false)
    (hvisible : lang.isVisible k.symbol = true) {s : Site} (htree : s.tree = .token k)
    (hlies : s.Lies lang text) : ∃ p, g.pattern? (lang.kindOf k.symbol) = some p
      ∧ s.node.Reads text p := by
  obtain ⟨before, after, ⟨-, hoffset⟩, hlaid⟩ := hlies
  rw [htree, tokens_token] at hlaid
  cases hlaid with
  | cons first rest =>
    obtain ⟨pad, body, post, rfl, rfl, hplaced | ⟨htrue, -⟩⟩ := first
    · have hlexeme : Lexeme lang k.symbol body := by
        rcases hplaced.spelt with herror | hlexeme | ⟨hsymbol, -, -⟩
        · have hlt := Nat.lt_of_lt_of_le hk.bound hlang.tokens
          rw [herror] at hlt
          exact absurd hlt (by decide)
        · exact hlexeme
        · rw [hsymbol, hagrees.ends] at hvisible
          simp at hvisible
      obtain ⟨p, hp, hmatches⟩ := hlexed.lexeme hlexeme
      have hseparator : lang.kindOf k.symbol ≠ .separator := by
        rw [Language.kindOf_of_visible hvisible]
        split <;> simp
      rw [Grammar.lexeme?, if_neg hseparator] at hp
      have hstart : s.node.start = Extent.ofText (before ++ pad) := by
        rw [Extent.ofText_append, ← hoffset, ← hplaced.padding]
        simp [Site.node, htree, padding]
      refine ⟨p, hp, before ++ pad, body, List.prefix_append _ post, hstart, ?_, hmatches⟩
      rw [Node.stop, hstart, Extent.ofText_append _ body, ← hplaced.size]
      simp [Site.node, htree, size]
    · exact absurd (htrue.symm.trans hmissing) (by simp)

/-- **In a tree that follows the rules and costs nothing all nodes fit the grammar.** -/
theorem Worded.fits (hlang : lang.Orderly) (hlexed : lang.Lexed g.toGrammar)
    (hagrees : lang.Agrees g) {s : Site} (h : s.tree.Worded lang g) (hcost : s.tree.errorCost = 0)
    (hlies : s.Lies lang text) (hvisible : lang.isVisible s.tree.symbol = true) :
    (Outline.mk s.node (outlines lang (s.below lang))).Fits lang g.toGrammar text := by
  have hkind : (s.node.letter lang).kind = lang.kindOf s.tree.symbol := by
    rw [Node.letter_of_visible hvisible]
    rfl
  have hrule : s.node.isNamed lang = true → ∀ r, g.rules.lookup (s.node.kind lang) = some r →
      g.rule? (lang.kindOf s.tree.symbol) = some r := by
    intro hnamed r hr
    have hsymbol : lang.kindOf s.tree.symbol = .rule (s.node.kind lang) := by
      rw [← hkind, Node.letter, if_pos hnamed]
    rw [hsymbol, Grammar.rule?, List.lookup_append, hr]
    rfl
  have hletters := letters_mk h
  cases htree : s.tree with
  | token k =>
    have hk : k.Derived lang g := Every.of_token (htree ▸ h)
    rw [htree, symbol] at hvisible hrule hkind
    have hmissing : k.missing = false := by
      rw [htree, errorCost] at hcost
      by_contra htrue
      simp [htrue, prices] at hcost
    refine ⟨fun hnamed r hr => ?_, fun _ => .inl ?_⟩
    · exact absurd ((hagrees.token _ hk.bound).symm.trans (hrule hnamed r hr)) (by simp)
    · rw [show ((Outline.mk s.node (outlines lang (s.below lang))).node.letter lang).kind
        = lang.kindOf k.symbol from hkind]
      exact reads_of_token hlang hlexed hagrees hk hmissing hvisible htree hlies
  | branch b cs =>
    have hb : b.Worded lang g cs := Every.of_branch (htree ▸ h)
    rw [htree, symbol] at hvisible hrule hkind
    rw [htree, production, children] at hletters
    obtain ⟨r, hr, hword⟩ := hb.word hvisible
    rw [← hletters] at hword
    refine ⟨fun hnamed r' hr' => ?_, fun hleaf => .inr ?_⟩
    · obtain rfl : r = r' := Option.some.inj (hr.symm.trans (hrule hnamed r' hr'))
      exact hword
    · rw [show ((Outline.mk s.node (outlines lang (s.below lang))).node.letter lang).kind
        = lang.kindOf b.symbol from hkind]
      refine (hagrees.shows _ hb.bound.2 hb.bound.1 hvisible).resolve_right fun hshows => ?_
      have hnil : (Outline.mk s.node (outlines lang (s.below lang))).letters lang = [] := by
        rw [Outline.letters, hleaf]
        rfl
      -- only a separator may stand for nothing
      have hexpand : ∀ k r, g.visible.expand? k = some r →
          r.mayVanish (fun k => decide (k = .separator)) = true →
            decide (k = Kind.separator) = true := by
        rintro (name | literal | _) r' hexpand hvanish
        · obtain ⟨front, back, hsplit, -⟩ := List.lookup_eq_some_iff.mp hexpand
          have hhidden := hagrees.hidden (name, r') (by simp [hsplit])
          exact absurd (hvanish.symm.trans hhidden) (by simp)
        · simp [Grammar.visible] at hexpand
        · rfl
      have hvanishes := hword.mayVanish hexpand hnil
      exact absurd (hvanishes.symm.trans (hshows r hr)) (by simp)

end Tree

end SyntaxKit
