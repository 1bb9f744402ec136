import SyntaxKit.Highlight
import SyntaxKit.Language.Harneet.Resources
import SyntaxKit.Proofs.Query.Layout
import SyntaxKit.Proofs.Query.Nodes
import SyntaxKit.Proofs.Query.Samples
import SyntaxKit.Proofs.Tree.Leaves

/-!
# Queries that colour all of a text

A query covers a grammar if patterns of single nodes capture all visible tokens, or the choices of
literals in which these stand (`Query.Covers`).  In a tree without an error a query that covers the
grammar has a span over every character that is not blank, and the node of the span is above no others, or
above one leaf (`Query.Covers.colours`).  Whether the text of a query is that of one that covers a
grammar is decided by reading it and looking at its program (`Query.isCovering`); the bundled query covers
Harneet's grammar, and colours all of every text without an error (`Harneet.highlights_colour`).
-/

namespace SyntaxKit

open Query Grammar

namespace Query.Program

variable {p : Program} {symbol : Symbol}

/-- A pattern of single nodes captures the nodes of a symbol. -/
def Captures (p : Program) (symbol : Symbol) : Prop :=
  ∃ e ∈ p.atSymbol, e.1 = symbol ∧ (p.step e.2.step).captures ≠ [] ∧ p.Singles e.2.pattern

theorem captures_unmarked : p.unmarked.Captures symbol ↔ p.Captures symbol := by
  simp only [Captures, atSymbol_unmarked, step_unmarked, Step.captures_unmarked, singles_unmarked]

instance (p : Program) (symbol : Symbol) (s : Start) : Decidable (p.IsSingle symbol s) :=
  decidable_of_iff (s.rooted = true ∧ (p.step s.step).role = .test ∧ (p.step s.step).depth = 0
      ∧ (p.step s.step).test.symbol = some symbol ∧ (p.step s.step).test.missing = false
      ∧ (p.step s.step).last = false ∧ (p.step s.step).field = none
      ∧ (p.step s.step).absent = [] ∧ p.endsAt (s.step + 1) = true)
    ⟨fun ⟨h₁, h₂, h₃, h₄, h₅, h₆, h₇, h₈, h₉⟩ => ⟨h₁, h₂, h₃, h₄, h₅, h₆, h₇, h₈, h₉⟩,
      fun h => ⟨h.rooted, h.role, h.depth, h.symbol, h.found, h.last, h.field, h.absent, h.ends⟩⟩

variable (p) in
/-- Whether a pattern asks for single nodes, each of another kind. -/
def areSingles (pattern : Nat) : Bool :=
  let entries := p.atSymbol.filter (·.2.pattern == pattern)
  p.anywhere.all (·.pattern != pattern) && entries.all (fun e => decide (p.IsSingle e.1 e.2))
    && decide (entries.map (·.1)).Nodup

variable (p) in
/-- Whether a pattern of single nodes captures the nodes of a symbol. -/
def capturesAll (symbol : Symbol) : Bool :=
  p.atSymbol.any fun e =>
    e.1 == symbol && !(p.step e.2.step).captures.isEmpty && p.areSingles e.2.pattern

variable (p) in
/-- The symbols whose nodes a pattern of single nodes captures.  Each pattern is looked at once. -/
def captured : List Symbol :=
  let singles := (List.range p.extents.length).filter p.areSingles
  (p.atSymbol.filter fun e =>
    !(p.step e.2.step).captures.isEmpty && singles.contains e.2.pattern).map (·.1)

theorem capturesAll_of_mem_captured (h : symbol ∈ p.captured) : p.capturesAll symbol = true := by
  obtain ⟨e, he, rfl⟩ := List.mem_map.mp h
  obtain ⟨he, hcaptures⟩ := List.mem_filter.mp he
  rw [Bool.and_eq_true, List.contains_iff_mem, List.mem_filter] at hcaptures
  rw [capturesAll, List.any_eq_true]
  exact ⟨e, he, by simp [hcaptures.1, hcaptures.2.2]⟩

theorem singles_of_areSingles {pattern : Nat} (h : p.areSingles pattern = true) :
    p.Singles pattern := by
  simp only [areSingles, Bool.and_eq_true, List.all_eq_true, bne_iff_ne, decide_eq_true_eq] at h
  obtain ⟨⟨hanywhere, hsingle⟩, hnodup⟩ := h
  refine ⟨hanywhere, fun e he hpattern => hsingle e (List.mem_filter.mpr ⟨he, by simpa⟩), ?_⟩
  rw [List.Nodup, List.pairwise_map, List.pairwise_filter] at hnodup
  exact hnodup.imp fun h hpattern hpattern' => h (by simpa) (by simpa)

theorem captures_of_capturesAll (h : p.capturesAll symbol = true) : p.Captures symbol := by
  obtain ⟨e, he, h⟩ := List.any_eq_true.mp h
  simp only [Bool.and_eq_true, beq_iff_eq, Bool.not_eq_true', List.isEmpty_eq_false_iff] at h
  exact ⟨e, he, h.1.1, h.1.2, singles_of_areSingles h.2⟩

end Query.Program

namespace Query

variable {lang : Language} {q : Query}

/-- A query captures all tokens of a grammar that show, or else the choices of literals that they stand
in. -/
structure Covers (q : Query) (lang : Language) (g : Grammar) : Prop where
  conditions : ∀ cs ∈ q.conditions, cs = []
  token : ∀ s < lang.tokenCount, lang.isVisible s = true → q.program.Captures s
    ∨ ∃ literal, lang.kindOf s = .literal literal ∧ g.isLone literal = true
  choice : ∀ s < lang.symbols.size, lang.isVisible s = true →
    ∀ r, g.rule? (lang.kindOf s) = some r → r.isLiteral = true → q.program.Captures s

/-- A query has a span over every character of a text that is not blank, for a small node of a tree. -/
def Colours (q : Query) (lang : Language) (t : Tree) (text : List Char) : Prop :=
  ∀ front c back, text = front ++ c :: back → Text.IsBlankAt front c
    ∨ ∃ o i index, (t.outline lang).all[i]? = some o ∧ o.IsSmall ∧ o.node.Shows front c
      ∧ ⟨⟨i, o.node.start, o.node.stop⟩, index⟩ ∈ q.captures lang t text
      ∧ ⟨q.captureNames.getD index "", o.node.start, o.node.stop⟩ ∈ q.highlight lang t text

/-- **A query that covers a grammar colours all of a text without an error.** -/
theorem Covers.colours {g : Listed} {text : List Char} {t : Tree} (h : q.Covers lang g.toGrammar)
    (hlossless : lang.Lossless) (hagrees : lang.Agrees g) (herrorless : t.Errorless lang g text)
    (hparsed : t.Parsed lang (.atPositions text)) : q.Colours lang t text := by
  intro front c back htext
  refine (herrorless.exists_small hlossless hagrees h.token h.choice htext).imp_right ?_
  rintro ⟨o, ho, hsmall, hshows, e, he, hsymbol, hcaptures, hsingles⟩
  obtain ⟨place, hplace, i, hi, hmark, hplaced⟩ := Tree.exists_place lang ho
  obtain ⟨index, hindex⟩ := List.exists_mem_of_ne_nil _ hcaptures
  have hpos : 0 < place.mark.stop.bytes := by
    rw [hmark]
    exact Nat.lt_of_lt_of_le (Nat.add_pos_right _ c.utf8Size_pos) hshows.2
  obtain ⟨hends, hparent⟩ := hparsed.not_endsAtStart hplace hpos
  have hcapture : ⟨⟨i, o.node.start, o.node.stop⟩, index⟩ ∈ q.captures lang t text := by
    rw [← hmark]
    exact mem_captures_of_single hsingles h.conditions hplace hends hparent
      (by rwa [hplaced, ← hsymbol]) rfl hindex text
  exact ⟨o, i, index, hi, hsmall, hshows, hcapture, List.mem_map.mpr ⟨_, hcapture, rfl⟩⟩

/-! ## Deciding it -/

variable (lang) in
/-- Whether a symbol stands for a choice of literals. -/
def isChoice (g : Grammar) (s : Symbol) : Bool :=
  match g.rule? (lang.kindOf s) with
  | some r => r.isLiteral
  | none => false

variable (lang) in
/-- Whether a symbol stands for a lone literal. -/
def isLoneLiteral (g : Grammar) (s : Symbol) : Bool :=
  match lang.kindOf s with
  | .literal literal => g.isLone literal
  | .rule _ | .separator => false

variable (lang) in
/-- Whether the text of a query is that of one that covers a grammar; some samples show that its steps
are feasible. -/
def isCovering (g : Grammar) (samples : List Sample) (text : List Char) : Bool :=
  match read lang text with
  | .ok (entries, _) =>
    let p := Program.ofPatterns (entries.map (·.pattern))
    entries.all (·.clauses.isEmpty) && p.parents.all (p.isFeasible lang samples)
      && (List.range lang.symbols.size).all fun s => !lang.isVisible s || p.capturesAll s
        || !isChoice lang g s && (lang.tokenCount.ble s || isLoneLiteral lang g s)
  | .error _ => false

variable (lang) in
/-- Whether the text of a query is read as patterns without conditions, and some samples show that the steps
of its program are feasible. -/
def isFeasibleText (samples : List Sample) (text : List Char) : Bool :=
  match read lang text with
  | .ok (entries, _) =>
    let p := (Piled.ofPatterns (entries.map (·.pattern))).program
    entries.all (·.clauses.isEmpty) && p.parents.all (p.isFeasible lang samples)
  | .error _ => false

variable (lang) in
/-- Whether the program of the text of a query captures what shows, or else the choices of literals that it
stands in. -/
def isCapturingText (g : Grammar) (text : List Char) : Bool :=
  match read lang text with
  | .ok (entries, _) =>
    let p := (Piled.ofPatterns (entries.map (·.pattern))).program
    let captured := p.captured
    (List.range lang.symbols.size).all fun s => !lang.isVisible s || captured.contains s
      || !isChoice lang g s && (lang.tokenCount.ble s || isLoneLiteral lang g s)
  | .error _ => false

/-- Whether a query covers a grammar can be decided in two goes, each on a program that is piled up. -/
theorem isCovering_of_texts {g : Grammar} {samples : List Sample} {text : List Char}
    (hfeasible : isFeasibleText lang samples text = true)
    (hcapturing : isCapturingText lang g text = true) :
    isCovering lang g samples text = true := by
  rw [isFeasibleText] at hfeasible
  rw [isCapturingText] at hcapturing
  rw [isCovering]
  split
  · next entries captures hread =>
    simp only [hread, Piled.program_ofPatterns] at hfeasible hcapturing
    simp only [hfeasible, Bool.true_and]
    rw [List.all_eq_true] at hcapturing ⊢
    intro s hs
    have hsymbol := hcapturing s hs
    simp only [Bool.or_eq_true, List.contains_iff_mem] at hsymbol ⊢
    exact hsymbol.imp_left fun h => h.imp_right Program.capturesAll_of_mem_captured
  · next e hread => simp [hread] at hfeasible

theorem exists_of_isLoneLiteral {g : Grammar} {s : Symbol} (h : isLoneLiteral lang g s = true) :
    ∃ literal, lang.kindOf s = .literal literal ∧ g.isLone literal = true := by
  rw [isLoneLiteral] at h
  cases hkind : lang.kindOf s with
  | literal literal => exact ⟨literal, rfl, by simpa [hkind] using h⟩
  | rule _ => simp [hkind] at h
  | separator => simp [hkind] at h

/-- **A query that is found to cover a grammar is compiled, and covers it.** -/
theorem exists_covers {g : Grammar} {samples : List Sample} {text : List Char}
    (hbound : lang.tokenCount ≤ lang.symbols.size) (h : isCovering lang g samples text = true) :
    ∃ q, compile lang text = .ok q ∧ q.Covers lang g := by
  rw [isCovering] at h
  split at h
  · next entries captures hread =>
    simp only [Bool.and_eq_true, List.all_eq_true, List.isEmpty_iff, List.mem_range,
      Bool.or_eq_true, Bool.not_eq_true', Nat.ble_eq] at h
    obtain ⟨⟨hclauses, hfeasible⟩, hsymbols⟩ := h
    obtain ⟨q, hok, hprogram, hconditions⟩ := compile_ok hread hclauses
      fun parent hparent => Program.feasible_of_isFeasible (hfeasible parent hparent)
    have hcaptures : ∀ {s}, (Program.ofPatterns (entries.map (·.pattern))).capturesAll s = true →
        q.program.Captures s := by
      intro s hs
      rw [← Program.captures_unmarked, hprogram, Program.captures_unmarked]
      exact Program.captures_of_capturesAll hs
    refine ⟨q, hok, hconditions, fun s hs hshown => ?_, fun s hs hshown r hr hliteral => ?_⟩
    · rcases hsymbols s (Nat.lt_of_lt_of_le hs hbound) with (hhidden | hs') | ⟨-, hother⟩
      · exact absurd (hshown.symm.trans hhidden) (by simp)
      · exact .inl (hcaptures hs')
      · exact .inr (exists_of_isLoneLiteral (hother.resolve_left (Nat.not_le_of_gt hs)))
    · rcases hsymbols s hs with (hhidden | hs') | ⟨hother, -⟩
      · exact absurd (hshown.symm.trans hhidden) (by simp)
      · exact hcaptures hs'
      · have hchoice : isChoice lang g s = true := by
          rw [isChoice, hr]
          exact hliteral
        exact absurd (hchoice.symm.trans hother) (by simp)
  · simp at h

end Query

namespace Harneet

/-! ## The bundled query -/

/-- Samples of the nodes that the bundled query looks into, by kind. -/
def samplesByKind : List (Kind × List (List Kind)) := [
  (.rule "package_declaration", [[.literal "package", .rule "identifier"]]),
  (.rule "import_spec", [[.rule "identifier", .literal "as", .rule "identifier"]]),
  (.rule "function_declaration",
    [[.literal "function", .rule "identifier", .rule "parameter_list", .rule "block"]]),
  (.rule "interface_method", [[.rule "identifier", .rule "parameter_list"]]),
  (.rule "type_declaration", [[.literal "type", .rule "identifier", .rule "identifier"]]),
  (.rule "enum_declaration", [[.literal "enum", .rule "identifier", .literal "\x7b", .literal "\x7d"]]),
  (.rule "enum_variant", [[.rule "identifier"]]),
  (.rule "struct_literal", [[.rule "identifier", .literal "\x7b", .literal "\x7d"]]),
  (.rule "const_declaration",
    [[.literal "const", .rule "identifier", .literal "=", .rule "expression"]]),
  (.rule "parameter", [[.rule "identifier", .rule "identifier"]]),
  (.rule "variable_declaration", [[.literal "var", .rule "identifier", .rule "identifier"]]),
  (.rule "arrow_function", [[.rule "identifier", .literal "=>", .rule "expression"]]),
  (.rule "struct_field", [[.rule "identifier", .rule "identifier"]]),
  (.rule "struct_field_value", [[.rule "identifier", .literal ":", .rule "expression"]]),
  (.rule "member_expression", [[.rule "expression", .literal ".", .rule "identifier"]]),
  (.rule "call_expression", [[.rule "expression", .rule "argument_list"]]),
  (.rule "expression", [[.rule "_primary_expression"], [.rule "identifier"]]),
  (.rule "expression", [[.rule "member_expression"]])]

/-- Samples of the nodes that the bundled query looks into. -/
def samples : List Sample := samplesByKind.map fun x =>
  (language.symbolOf x.1, x.2.map fun children => children.map language.symbolOf)

theorem toList_unlines_nil : (unlines []).toList = [] := rfl

theorem toList_unlines_cons {line text : List Char} {lines : List String}
    (h : (unlines lines).toList = text) :
    (unlines (String.ofList line :: lines)).toList = line ++ '\n' :: text := by
  rw [← h]
  simp [unlines]

set_option maxRecDepth 100000 in
/-- The characters of the bundled query, and that it covers the grammar.  Going by its lines the kernel
need not take the characters out of one long string. -/
theorem exists_isCovering_highlights : ∃ text, highlightsQuery.toList = text
    ∧ isCovering language grammar samples text = true := by
  apply Exists.intro
  apply And.intro
  · unfold highlightsQuery
    repeat apply toList_unlines_cons
    exact toList_unlines_nil
  · apply isCovering_of_texts
    · decide +kernel
    · decide +kernel

/-- **The bundled query colours all of every text without an error.** -/
theorem highlights_colour : ∃ q, Query.compile language highlightsQuery.toList = .ok q
    ∧ ∀ text, (language.parse text).root.hasError = false →
      q.Colours language (language.parse text) text := by
  obtain ⟨text, heq, hcovering⟩ := exists_isCovering_highlights
  obtain ⟨q, hok, hcovers⟩ := exists_covers agrees.visible.bound.2 hcovering
  refine ⟨q, heq ▸ hok, fun text h => ?_⟩
  obtain ⟨herrorless, -⟩ := Language.errorless_of_hasError orderly lossless generated lexed agrees
    (by decide +kernel) text h
  exact Covers.colours (g := listed) hcovers lossless agrees herrorless
    (Language.parsed_parse orderly (Cutting.suits_atPositions orderly lossless text))

/-- All of a function that calls another one is coloured. -/
theorem highlights_colour_function : ∃ q, Query.compile language highlightsQuery.toList = .ok q
    ∧ (language.parse "function f() \x7b g(1) \x7d".toList).root.hasError = false
    ∧ q.Colours language (language.parse "function f() \x7b g(1) \x7d".toList)
        "function f() \x7b g(1) \x7d".toList := by
  have h : (language.parse "function f() \x7b g(1) \x7d".toList).root.hasError = false := by
    decide +kernel
  obtain ⟨q, hok, hcolours⟩ := highlights_colour
  exact ⟨q, hok, h, hcolours _ h⟩

end Harneet

end SyntaxKit
