import SyntaxKit.Grammar.Harneet
import SyntaxKit.Proofs.Grammar.Matching
import SyntaxKit.Proofs.Language.Path

/-!
# Tables that have been built from a grammar

The tables of a parser say nothing of the grammar that they have been built from.
`Language.Generated` says that they keep to one: whatever path of the automaton a reduction ends, the
symbols on the path are a word of the rule that the reduction is for, with the fields that its
production gives them.  `Language.isGenerated` decides it by going back from every reduction along
all edges; Harneet's tables meet it (`Harneet.generated`).

The precedences of a grammar are resolved when its tables are built, in favour of some of the paths.
No trace of them is left that would have to be looked at here.
-/

namespace SyntaxKit

open Grammar

namespace Language

variable (lang : Language)

/-! ## Symbols and kinds -/

/-- The kind that a symbol has in a grammar. -/
def kindOf (s : Symbol) : Kind :=
  match lang.visibility s with
  | .literal => .literal (lang.symbolName s)
  | .auxiliary => if s < lang.tokenCount then .separator else .rule (lang.symbolName s)
  | .named | .hidden => .rule (lang.symbolName s)

/-- The symbol of a kind, as a number whose bit is set. -/
def symbolsOf (k : Kind) : Nat :=
  match (List.range lang.symbols.size).find? fun s => lang.kindOf s = k with
  | some s => 1 <<< s
  | none => 0

/-- Some symbols as the children of a production, from an index on. -/
def spelling (production : Nat) : Nat → List Symbol → List Letter
  | _, [] => []
  | i, s :: ss => ⟨lang.kindOf s, lang.fieldOf? production i⟩ :: spelling production (i + 1) ss

/-- Some sets of symbols as the children of a production, from an index on. -/
def traceOf (production : Nat) : Nat → List Nat → Trace
  | _, [] => []
  | i, m :: ms => (m, lang.fieldOf? production i) :: traceOf production (i + 1) ms

variable {lang} in
theorem kindOf_of_testBit {k : Kind} {s : Symbol} (h : (lang.symbolsOf k).testBit s = true) :
    lang.kindOf s = k := by
  rw [symbolsOf] at h
  split at h
  · next s' hfind =>
    have hkind : lang.kindOf s' = k := by simpa using List.find?_some hfind
    rw [Nat.one_shiftLeft, Nat.testBit_two_pow, decide_eq_true_eq] at h
    rw [← h, hkind]
  · simp at h

variable {lang} in
/-- The symbols chosen from some sets are spelled as chosen from their trace. -/
theorem chosen_spelling {production : Nat} {ss : List Symbol} {ms : List Nat} (i : Nat)
    (h : List.Forall₂ (fun (s : Symbol) (m : Nat) => m.testBit s = true) ss ms) :
    Chosen lang.kindOf (lang.traceOf production i ms) (lang.spelling production i ss) := by
  induction h generalizing i with
  | nil => exact .nil
  | cons hbit _ ih => exact .cons ⟨_, hbit, rfl⟩ (ih (i + 1))

/-! ## Keeping to a grammar -/

/-- The tables of a language keep to a grammar. -/
structure Generated (g : Listed) : Prop where
  /-- What a reduction takes from a stack is a word of the rule that it is for. -/
  reduce : ∀ {a b ss token symbol production}, lang.Path a ss b →
    .reduce symbol ss.length production ∈ lang.actions b token →
      symbol < lang.symbols.size ∧ (∃ r, g.meaning? (lang.kindOf symbol) = some r
        ∧ Word g.inner none r (lang.spelling production 0 ss))
      ∧ (g.list? (lang.kindOf symbol) ≠ none → lang.productions.getD production [] = [])
  /-- A text is complete behind a node that follows the start rule, and nothing else. -/
  accept : ∀ {b ss token}, lang.Path ParseState.initial ss b → .accept ∈ lang.actions b token →
    ∃ s, ss = [s] ∧ lang.kindOf s = .rule g.start
  /-- What stands beside the grammar is an extra. -/
  extra : ∀ {state token}, .shiftExtra ∈ lang.actions state token →
    ∃ p ∈ g.extras, g.pattern? (lang.kindOf token) = some p

/-! ## Deciding it -/

variable (g : Listed)

/-- Whether all choices from some sets are words of the rule of a symbol. -/
def derives (symbol : Symbol) (production : Nat) (ms : List Nat) : Bool :=
  match g.meaning? (lang.kindOf symbol) with
  | some r => (rests g lang.symbolsOf r none (lang.traceOf production 0 ms)).any (·.isEmpty)
  | none => false

/-- Whether a set of tokens is made of extras. -/
def areExtras (tokens : Nat) : Bool :=
  (List.range lang.tokenCount).all fun s =>
    !tokens.testBit s || g.extras.any fun p => g.pattern? (lang.kindOf s) = some p

/-- Whether an action of a state keeps to the grammar on a set of tokens. -/
def actionDerives (state : ParseState) (tokens : Nat) : Action → Bool
  | .reduce symbol count production =>
    symbol.blt lang.symbols.size
      && ((g.list? (lang.kindOf symbol)).isNone || (lang.productions.getD production []).isEmpty)
      && lang.backward (lang.derives g symbol production) count state []
  | .accept => state != ParseState.initial && (lang.edgesInto state).all fun e =>
      e.source == ParseState.initial && e.symbols == lang.symbolsOf (.rule g.start)
  | .shiftExtra => lang.areExtras g tokens
  | .shift .. | .recover => true

/-- Decides whether the tables keep to a grammar. -/
def isGenerated : Bool :=
  (lang.edgesInto ParseState.initial).isEmpty && lang.parseStates.toList.zipIdx.all fun x =>
    seen (fun state => x.1.entries.all fun e =>
      e.actions.all fun a => lang.actionDerives g state e.tokens a) x.2

variable {lang g}

theorem word_of_derives {symbol : Symbol} {production : Nat} {ss : List Symbol} {ms : List Nat}
    (hms : List.Forall₂ (fun (s : Symbol) (m : Nat) => m.testBit s = true) ss ms)
    (h : lang.derives g symbol production ms = true) : ∃ r, g.meaning? (lang.kindOf symbol) = some r
      ∧ Word g.inner none r (lang.spelling production 0 ss) := by
  rw [derives] at h
  split at h
  · next r hr =>
    obtain ⟨rest, hrest, hempty⟩ := List.any_eq_true.mp h
    have hkinds : ∀ k s, (lang.symbolsOf k).testBit s = true → lang.kindOf s = k :=
      fun k s => kindOf_of_testBit
    obtain ⟨used, hused, hword⟩ := word_of_mem_rests hkinds hrest
    obtain rfl : rest = [] := List.isEmpty_iff.mp hempty
    rw [List.append_nil] at hused
    refine ⟨r, hr, hword _ ?_⟩
    rw [← hused]
    exact chosen_spelling 0 hms
  · simp at h

theorem actionDerives_of_mem (h : lang.isGenerated g = true) {state : ParseState} {token : Symbol}
    {a : Action} (hmem : a ∈ lang.actions state token) :
    ∃ tokens, token < lang.tokenCount ∧ tokens.testBit token = true
      ∧ lang.actionDerives g state tokens a = true := by
  obtain ⟨htoken, -, e, he, hbit, hmem⟩ := mem_actions hmem
  simp only [isGenerated, seen_eq, Bool.and_eq_true, List.all_eq_true] at h
  exact ⟨e.tokens, htoken, hbit, h.2 _ (row_mem_zipIdx he) e he a hmem⟩

theorem edgesInto_initial (h : lang.isGenerated g = true) :
    lang.edgesInto ParseState.initial = [] := by
  rw [isGenerated, Bool.and_eq_true, List.isEmpty_iff] at h
  exact h.1

theorem generated_of_isGenerated (h : lang.isGenerated g = true) : lang.Generated g where
  reduce {a b ss token symbol production} hpath hmem := by
    obtain ⟨tokens, -, -, haction⟩ := actionDerives_of_mem h hmem
    simp only [actionDerives, Bool.and_eq_true, Bool.or_eq_true, Option.isNone_iff_eq_none,
      List.isEmpty_iff] at haction
    obtain ⟨⟨hsymbol, hfields⟩, hback⟩ := haction
    obtain ⟨ms, hms, hderives⟩ := chosen_of_backward hback hpath rfl
    rw [List.append_nil] at hderives
    refine ⟨?_, word_of_derives hms hderives, fun hlist => hfields.resolve_left hlist⟩
    exact Nat.blt_eq.mp hsymbol
  accept {b ss token} hpath hmem := by
    obtain ⟨tokens, -, -, haction⟩ := actionDerives_of_mem h hmem
    simp only [actionDerives, Bool.and_eq_true, bne_iff_ne, List.all_eq_true, beq_iff_eq] at haction
    obtain ⟨hstate, hedges⟩ := haction
    rcases List.eq_nil_or_concat ss with rfl | ⟨front, s, rfl⟩
    · exact absurd hpath.symm hstate
    · rw [List.concat_eq_append] at hpath ⊢
      obtain ⟨m, hfront, hlast⟩ := path_concat.mp hpath
      obtain ⟨e, he, hsource, hbit⟩ := hlast.exists_edge
      obtain ⟨hinitial, hsymbols⟩ := hedges e he
      rw [hsymbols] at hbit
      -- nothing leads back to the initial state
      rcases List.eq_nil_or_concat front with rfl | ⟨front', s', rfl⟩
      · exact ⟨s, rfl, kindOf_of_testBit hbit⟩
      · rw [List.concat_eq_append] at hfront
        obtain ⟨m', -, hback⟩ := path_concat.mp hfront
        obtain ⟨e', he', -, -⟩ := hback.exists_edge
        rw [← hsource, hinitial, edgesInto_initial h] at he'
        simp at he'
  extra {state token} hmem := by
    obtain ⟨tokens, htoken, hbit, haction⟩ := actionDerives_of_mem h hmem
    have hextra := List.all_eq_true.mp haction token (List.mem_range.mpr htoken)
    simpa [hbit] using hextra

end Language

namespace Harneet

open Rule

/-- The grammar of Harneet with the lists by which its tables know repetitions. -/
def listed : Listed where
  toGrammar := grammar
  lists := [
    ("source_file_repeat1", ref "_statement"),
    ("import_declaration_repeat1", seq (lit ",") (ref "import_spec")),
    ("enum_declaration_repeat1", seq (lit ",") (ref "enum_variant")),
    ("enum_variant_repeat1", seq (lit ";") (ref "struct_field")),
    ("parameter_list_repeat1", seq (lit ",") (ref "parameter")),
    ("switch_statement_repeat1", ref "case_clause"),
    ("case_clause_repeat1", seq (lit ",") (ref "expression")),
    ("function_type_repeat1", seq (lit ",") (ref "_type")),
    ("struct_type_repeat1", seq (choice (lit ";") (item .separator)) (ref "struct_field")),
    ("interface_type_repeat1", seq (choice (lit ";") (item .separator)) (ref "interface_method")),
    ("map_literal_repeat1", seq (lit ",") (ref "map_entry")),
    ("struct_literal_repeat1", seq (lit ",") (ref "struct_field_value")),
    ("match_expression_repeat1", ref "match_arm"),
    ("array_pattern_repeat1", seq (lit ",") (ref "pattern"))]

set_option maxRecDepth 100000 in
/-- **Harneet's tables keep to its grammar.** -/
theorem generated : language.Generated listed :=
  Language.generated_of_isGenerated (by decide +kernel)

end Harneet

end SyntaxKit
