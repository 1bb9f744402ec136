import SyntaxKit.Proofs.Language.Operators
import SyntaxKit.Proofs.Parse.Ranked
import SyntaxKit.Proofs.Tree.Leaves

/-!
# Operators have a precedence

In the tree of a text without an error all operations are ranked (`Language.ranked_of_hasError`), and so
are those that are seen in its outline.  For Harneet this is the table of the operators
(`Harneet.precedence`): an operand of a binary expression that is a binary expression itself has an
operator that binds tighter, or as tightly if it is on the side to which operators at its level lean, and
no operand is a pipe (`Harneet.binary_expressions_nest`).
-/

namespace SyntaxKit

namespace Language

variable {lang : Language} {g : Grammar.Listed} {d : Accord} {rivals : List (Symbol × Symbol)}
  {o : Operators}

/-- **All operations in a tree without an error are ranked.** -/
theorem ranked_of_hasError (hlang : lang.Orderly) (hlossless : lang.Lossless)
    (hgen : lang.Generated g) (hclosing : lang.Closing) (hd : lang.Accordant d) (hclear : d.Clear lang)
    (hrivals : lang.Resolves d rivals) (hranks : lang.Ranks d rivals o) (hshows : lang.Shows o)
    (text : List Char) (h : (lang.parse text).root.hasError = false) :
    (lang.parse text).Ranked o := by
  have hcost := Tree.errorCost_of_root h
  have hrounds : ∀ env : Setting, env.lang = lang → env.source = Source.ofText text → ∀ t,
      (Parse.rounds env env.maxSteps (Parse.begin none) 0).finished = some t →
      t.Consistent lang ∧ (t.Ranked o ∨ 0 < t.errorCost) := by
    rintro env rfl hsource t ht
    have hwhole := Parse.whole_of_rounds (Law.closed_derived hlang hlossless hsource hgen)
      hlang.someToken (fun t ht => by simp at ht) ht
    have hL := Law.advances_ranked hlang hlossless hsource hgen hclosing hd hclear hrivals hranks
    refine ⟨hwhole.1.1.1.1, (Parse.whole_or_pos_of_rounds hlang hlossless hsource hgen hclosing ?_ id hL
      ?_ ht).imp_left And.right⟩
    · exact ⟨id, fun h => h.1, fun h => h.1, id, id, .inl⟩
    · exact ⟨rfl, by decide⟩
  rcases parse_cases text hrounds with ⟨t, generation, ⟨hconsistent, hranked⟩, heq⟩ | ⟨n, heq⟩
  · obtain ⟨hconsistent', halike⟩ := hconsistent.balance generation
    have hiff := halike.errorCost_pos_iff hconsistent hconsistent'
    rw [heq] at hcost ⊢
    exact ((hranked.resolve_right (by omega)).balance hshows.unlisted hconsistent generation).1
  · rw [heq] at hcost
    exact absurd hcost (Nat.ne_of_gt (Tree.errorCost_ofChildren_pos _ (.inl rfl)))

end Language

namespace Harneet

theorem shows : language.Shows operators where
  operand := by decide +kernel
  operation := by decide +kernel
  operator := by decide +kernel

/-! ## Names -/

/-- The names of operands, of operations and of their operators. -/
def operationNames : List String :=
  "expression" :: "pipe_expression" :: "binary_expression" :: precedence.map Prod.fst

theorem mem_operationNames {op : String} {q : Nat} (h : (op, q) ∈ precedence) :
    op ∈ operationNames := by
  rw [operationNames, List.mem_cons, List.mem_cons, List.mem_cons]
  exact .inr (.inr (.inr (List.mem_map.mpr ⟨(op, q), h, rfl⟩)))

/-- The symbols of operations have the names that the grammar gives them. -/
structure Named : Prop where
  operand : language.symbolName operators.operand = "expression"
  operator : ∀ x ∈ operators.levels, x.1 = symbolNamed "binary_expression" →
    (language.symbolName x.2.1, x.2.2) ∈ precedence
  pipe : ∀ x ∈ operators.levels, x.1 = symbolNamed "pipe_expression" → x.2.2 = 0
  /-- Only one symbol has one of the names. -/
  once : ∀ s < language.symbols.size, language.symbolName s ∈ operationNames →
    s = symbolNamed (language.symbolName s)

theorem named : Named where
  operand := by decide +kernel
  operator := by decide +kernel
  pipe := by decide +kernel
  once := by decide +kernel

theorem eq_symbolNamed {name : String} (hname : name ∈ operationNames) {s : Symbol}
    (hs : language.symbolName s = name) : s = symbolNamed name := by
  have hplain : ∀ name ∈ ["ERROR", "_ERROR", ""], name ∉ operationNames := by decide
  rw [← hs] at hname ⊢
  refine named.once s ?_ hname
  by_contra hle
  refine hplain _ ?_ hname
  have hnone : language.symbols[s]? = none := Array.getElem?_eq_none (Nat.le_of_not_lt hle)
  rw [Language.symbolName, hnone]
  split
  · simp
  · split <;> simp

theorem mem_levels {op : String} {q : Nat} (h : (op, q) ∈ precedence) :
    (symbolNamed "binary_expression", symbolNamed op, q) ∈ operators.levels := by
  rw [operators]
  exact List.mem_cons_of_mem _ (List.mem_map.mpr ⟨(op, q), h, rfl⟩)

theorem forms_binary {s : Symbol} (hs : s = symbolNamed "binary_expression") : operators.Forms s := by
  rw [hs]
  have hor : ("or", 1) ∈ precedence := List.mem_cons_self ..
  exact Operators.forms_of_mem (mem_levels hor)

theorem forms_pipe {s : Symbol} (hs : s = symbolNamed "pipe_expression") : operators.Forms s := by
  have hmem : (symbolNamed "pipe_expression", symbolNamed "|>", 0) ∈ operators.levels := by
    rw [operators]
    exact List.mem_cons_self ..
  rw [hs]
  exact Operators.forms_of_mem hmem

/-! ## The table of the operators -/

/-- A node is a binary expression whose operator has the level. -/
def IsBinary (x : Outline) (q : Nat) : Prop :=
  x.node.kind language = "binary_expression"
    ∧ ∃ op ∈ x.members, (op.node.kind language, q) ∈ precedence

/-- Two operands of an operator at a level bind as tightly as it asks for: a binary expression on the left
may be at the same level unless that is the level of `**`, on the right only if it is that level. -/
structure Nests (left right : Outline) (p : Nat) : Prop where
  onLeft : ∀ x ∈ left.children, ∀ q, IsBinary x q → p < q ∨ q = p ∧ p ≤ 8
  onRight : ∀ x ∈ right.children, ∀ q, IsBinary x q → p < q ∨ q = p ∧ p = 9
  noPipe : ∀ x ∈ left.children ++ right.children, x.node.kind language ≠ "pipe_expression"

theorem operates_of_isBinary {x : Outline} {q : Nat} (h : IsBinary x q) : x.Operates operators q := by
  obtain ⟨hkind, op, hop, hlevel⟩ := h
  have hsymbol : x.symbol = symbolNamed "binary_expression" :=
    eq_symbolNamed (by simp [operationNames]) hkind
  have hopSymbol : op.symbol = symbolNamed (op.node.kind language) :=
    eq_symbolNamed (mem_operationNames hlevel) rfl
  refine ⟨op, hop, ?_⟩
  rw [hsymbol, hopSymbol]
  exact mem_levels hlevel

/-- A pipe is at the lowest level, so what is at higher levels only is no pipe. -/
theorem kind_ne_pipe {x : Outline} (h : x.Ranked operators)
    (hpos : ∀ q, x.Operates operators q → 0 < q) : x.node.kind language ≠ "pipe_expression" := by
  intro hkind
  have hsymbol : x.symbol = symbolNamed "pipe_expression" :=
    eq_symbolNamed (by simp [operationNames]) hkind
  obtain ⟨left, op, right, p, hmembers, -, -, hlevel, -⟩ :=
    h (forms_pipe hsymbol)
  obtain rfl : p = 0 := named.pipe _ hlevel hsymbol
  exact Nat.lt_irrefl 0 (hpos 0 ⟨op, by simp [hmembers], hlevel⟩)

/-- **Binary expressions follow the table of the operators**: in the tree of a text without an error each
of them has an operator and two operands, which bind as tightly as the level of the operator asks for. -/
theorem binary_expressions_nest (text : List Char) (h : (language.parse text).root.hasError = false) :
    ∀ x ∈ ((language.parse text).outline language).all, x.node.kind language = "binary_expression" →
      ∃ left op right p, x.members = [left, op, right] ∧ left.node.kind language = "expression"
        ∧ right.node.kind language = "expression" ∧ (op.node.kind language, p) ∈ precedence
        ∧ Nests left right p := by
  have hranked := (Language.ranked_of_hasError orderly lossless generated closing accordant clear resolves
    ranks shows text h).outline shows
  intro x hx hkind
  have hsymbol : x.symbol = symbolNamed "binary_expression" :=
    eq_symbolNamed (by simp [operationNames]) hkind
  obtain ⟨left, op, right, p, hmembers, hleft, hright, hlevel, hlefts, hrights⟩ :=
    hranked x hx (forms_binary hsymbol)
  have hbounds : ∀ y ∈ precedence, 0 < y.2 ∧ y.2 ≤ 9 := by decide
  have hop := named.operator _ hlevel hsymbol
  have hbound := hbounds _ hop
  refine ⟨left, op, right, p, hmembers, (congrArg _ hleft).trans named.operand,
    (congrArg _ hright).trans named.operand, hop, fun y hy q hq => ?_, fun y hy q hq => ?_,
    fun y hy => ?_⟩
  · refine (hlefts y hy q (operates_of_isBinary hq)).imp_right fun hsame => ⟨hsame.1, ?_⟩
    have hne : p ≠ 9 := by simpa [operators] using hsame.2
    exact Nat.le_of_lt_succ (Nat.lt_of_le_of_ne hbound.2 hne)
  · exact (hrights y hy q (operates_of_isBinary hq)).imp_right fun hsame =>
      ⟨hsame.1, by simpa [operators] using hsame.2⟩
  · have hin : ∀ c ∈ [left, op, right], ∀ y ∈ c.children, y.Ranked operators := fun c hc y hy =>
      hranked y (Outline.mem_all_of_child hy
        (Outline.mem_all_of_child (List.mem_of_mem_filter (hmembers ▸ hc)) hx))
    rcases List.mem_append.mp hy with hy | hy
    · exact kind_ne_pipe (hin left (by simp) y hy) fun q hq => (hlefts y hy q hq).elim
        (Nat.lt_of_le_of_lt (Nat.zero_le p)) fun hsame => hsame.1 ▸ hbound.1
    · exact kind_ne_pipe (hin right (by simp) y hy) fun q hq => (hrights y hy q hq).elim
        (Nat.lt_of_le_of_lt (Nat.zero_le p)) fun hsame => hsame.1 ▸ hbound.1

/-- The precedence of operators at a sum that has a product on the right. -/
theorem binary_expressions_nest_sum :
    (language.parse "1 + 2 * 3".toList).root.hasError = false
      ∧ ∃ x ∈ ((language.parse "1 + 2 * 3".toList).outline language).all,
        x.node.kind language = "binary_expression" ∧ ∃ left op right p, x.members = [left, op, right]
          ∧ left.node.kind language = "expression" ∧ right.node.kind language = "expression"
          ∧ (op.node.kind language, p) ∈ precedence ∧ Nests left right p := by
  have h : (language.parse "1 + 2 * 3".toList).root.hasError = false := by decide +kernel
  have hany : (((language.parse "1 + 2 * 3".toList).outline language).all.any fun x =>
      x.node.kind language == "binary_expression") = true := by decide +kernel
  obtain ⟨x, hx, hkind⟩ := List.any_eq_true.mp hany
  have hkind := beq_iff_eq.mp hkind
  exact ⟨h, x, hx, hkind, binary_expressions_nest _ h x hx hkind⟩

end Harneet

end SyntaxKit
