import SyntaxKit.Proofs.Parse.Parsed
import SyntaxKit.Proofs.Language.Lossless
import SyntaxKit.Proofs.Parse.Spelled
import SyntaxKit.Proofs.Tree.Cover

/-!
# No text is lost in a tree

The tree of a text keeps all of it (`Tree.Keeps`), whether the text is in order or not: the tokens
of the tree are laid out over the text (`Language.laid_parse`), which says where every node stands
and that what no leaf shows is blank.
-/

namespace SyntaxKit

open Lexer

variable {lang : Language}

/-- A node that stands in a text begins and ends at positions of it. -/
theorem Node.Stands.points {text : List Char} {n : Node} (h : n.Stands text) (p : Extent)
    (hp : p = n.start ∨ p = n.stop) : ∃ front, front <+: text ∧ p.bytes = Text.byteLength front
      ∧ p.point = ⟨front.count '\n', Text.byteLength (Text.lastLine front)⟩ := by
  obtain ⟨front, body, hbegins, hstart, hstop⟩ := h
  have hat : ∀ s, p = Extent.ofText s → p.bytes = Text.byteLength s
      ∧ p.point = ⟨s.count '\n', Text.byteLength (Text.lastLine s)⟩ := by
    rintro s rfl
    exact ⟨Extent.bytes_ofText s, Extent.point_ofText s⟩
  rcases hp with hp | hp
  · exact ⟨front, (List.prefix_append front body).trans hbegins, hat _ (hp.trans hstart)⟩
  · exact ⟨front ++ body, hbegins, hat _ (hp.trans hstop)⟩

namespace Tree

/-- A tree keeps a text: its root ends where the text does; the nodes below each other are nested,
and siblings follow each other; all nodes begin and end at positions of the text, in bytes as well
as in lines and columns; and a character that is below no leaf is blank. -/
structure Keeps (lang : Language) (text : List Char) (t : Tree) : Prop where
  ends : t.root.stop.bytes = Text.byteLength text
  nested : (t.outline lang).Nested
  points : ∀ n ∈ t.nodes lang, ∀ p, p = n.start ∨ p = n.stop → ∃ front, front <+: text
    ∧ p.bytes = Text.byteLength front
    ∧ p.point = ⟨front.count '\n', Text.byteLength (Text.lastLine front)⟩
  leaves : ∀ front c back, text = front ++ c :: back →
    Text.IsBlankAt front c ∨ ∃ n ∈ (t.outline lang).leaves, n.Shows front c

/-- **A tree whose tokens are laid out over a text keeps it.** -/
theorem keeps_of_laid (hlossless : lang.Lossless) {text : List Char} {t : Tree}
    (ht : t.Consistent lang) (h : Token.Laid lang text [] t.tokens text) : t.Keeps lang text := by
  -- the root shows even where its symbol would not
  let site : Site := ⟨t, Extent.zero, 0, none⟩
  have hroot : site.node = t.root := by simp [site, Site.node, Tree.root]
  obtain ⟨pad, body, htext, hstart, hstop⟩ := exists_ends (s := site) ht rfl h
  simp only [List.nil_append] at htext hstart hstop
  rw [hroot, ← htext] at hstop
  rw [hroot] at hstart
  have hstands : ∀ o ∈ (t.outline lang).all, o.node.Stands text := by
    intro o ho
    obtain ⟨s, hs, -, hlies, -, rfl⟩ :=
      exists_site_of_laid (P := fun _ => True) (fun _ _ _ _ => trivial) ht trivial h o ho
    exact hlies.stands hs
  have hshown : Text.Shown text 0 (Text.byteLength text) (t.outline lang).leaves := by
    rw [outline, ← hroot]
    exact shown_site (s := site) ht rfl h <|
      shown_outlines hlossless (site.below lang) Extent.zero [] text
        (sited_childSites lang _ _ _ _ _ _) rfl
        fun s hs => ht.of_mem (Site.tree_mem_of_below lang hs)
  refine ⟨?_, nested_outline lang ht, fun n hn => ?_, fun front c back hfront => ?_⟩
  · rw [hstop, Extent.bytes_ofText]
  · rw [nodes_eq] at hn
    obtain ⟨o, ho, rfl⟩ := List.mem_map.mp hn
    exact (hstands o ho).points
  · refine hshown front c back hfront (Nat.zero_le _) ?_
    have hpos := c.utf8Size_pos
    rw [hfront, Text.byteLength_append, Text.byteLength]
    omega

end Tree

namespace Language

/-- The tokens of the tree of a text that was given up are laid out over it. -/
theorem laid_unread (generation : Nat) (text : List Char) :
    Token.Laid lang text [] (lang.unread generation text).tokens text := by
  rw [unread, Tree.tokens_ofChildren]
  refine .one ⟨[], text, [], by simp, by simp, .inl ⟨?_, rfl, rfl, .inl rfl, by simp⟩⟩
  exact .inl (by simp)

/-- The tree of a text is the best one that a parse has kept, with its lists balanced, or else the
text has been given up. -/
theorem parse_cases {P : Tree → Prop} (text : List Char)
    (hrounds : ∀ env : Setting, env.lang = lang → env.source = Source.ofText text → ∀ t,
      (Parse.rounds env env.maxSteps (Parse.begin none) 0).finished = some t → P t) :
    (∃ t generation, P t ∧ lang.parse text = t.balance lang generation)
      ∨ ∃ generation, lang.parse text = lang.unread generation text := by
  have hfinish : ∀ (generation : Nat) (best : Option Tree), (∀ t, best = some t → P t) →
      (∃ t generation', P t ∧ lang.finish generation text best = t.balance lang generation')
        ∨ ∃ generation', lang.finish generation text best = lang.unread generation' text := by
    intro generation best hbest
    cases best with
    | some t => exact .inl ⟨t, generation, hbest t rfl, rfl⟩
    | none => exact .inr ⟨generation, rfl⟩
  rw [parse, parseWith, parseSource, Source.suffixAt_zero]
  exact hfinish _ _ (hrounds _ rfl rfl)

/-- What is kept obeys whatever law parsing keeps to. -/
theorem parse_eq_balance_or_unread {L : Law} (text : List Char) (htokens : 1 ≤ lang.tokenCount)
    (hL : ∀ env : Setting, env.lang = lang → env.source = Source.ofText text → L.Closed env) :
    (∃ t generation, L.whole t ∧ lang.parse text = t.balance lang generation)
      ∨ ∃ generation, lang.parse text = lang.unread generation text := by
  refine parse_cases text ?_
  rintro env rfl hsource t ht
  exact Parse.whole_of_rounds (hL env rfl hsource) htokens (fun t ht => by simp at ht) ht

/-- **The tokens of the tree of a text are laid out over it.** -/
theorem laid_parse (hlang : lang.Orderly) (hlossless : lang.Lossless) (text : List Char) :
    Token.Laid lang text [] (lang.parse text).tokens text := by
  rcases @parse_eq_balance_or_unread lang (Law.spelled lang text) text hlang.someToken
    (fun env henv hsource => by
      subst henv
      exact Law.closed_spelled hlang hlossless hsource) with ⟨t, generation, ht, heq⟩ | ⟨n, heq⟩
  · rw [heq, Tree.tokens_balance]
    exact ht.2
  · rw [heq]
    exact laid_unread n text

end Language

/-- **No text is lost in a tree**, whatever the text. -/
theorem Harneet.keeps_parse (text : List Char) :
    (Harneet.language.parse text).Keeps Harneet.language text := by
  have hconsistent : (Harneet.language.parse text).Consistent Harneet.language := by
    exact (Language.parsed_parse orderly (Cutting.suits_betweenCharacters _ text)).paid.1
  exact Tree.keeps_of_laid lossless hconsistent (Language.laid_parse orderly lossless text)

end SyntaxKit
