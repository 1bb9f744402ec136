import SyntaxKit.Proofs.Language.Rivals

/-!
# Tables that rank operators

An operation is formed of an operand, an operator and another operand, and an operand may be an operation
itself.  How these nest is decided by the tables: an operation is reduced on no operator that binds
tighter, and behind an operation no operator can be shifted that binds less.  `Language.Ranks` says so of
all paths of the automaton that end in the reduction of an operation, for the levels that `Operators`
gives the operators.  Where a reduction is made on a token that an operator may be read instead of, the
state behind it has something to do with that token.

`Language.isRanking` decides this by going back over the three edges of an operation.  Harneet's tables meet
it, and they lead on and resolve the rivals of its operators (`Harneet.decided`).
-/

namespace SyntaxKit

/-- The operators of a language: the node that an operand is, the nodes with the operators that form them
and their levels, and the levels at which operations stand on the right. -/
structure Operators where
  operand : Symbol
  levels : List (Symbol × Symbol × Nat)
  rightward : List Nat

namespace Operators

variable (o : Operators)

/-- The symbol stands for an operation. -/
def Forms (s : Symbol) : Prop := ∃ x ∈ o.levels, x.1 = s

theorem forms_of_mem {o : Operators} {node op : Symbol} {q : Nat} (h : (node, op, q) ∈ o.levels) :
    o.Forms node := ⟨_, h, rfl⟩

/-- The left operand of an operation at level `p` may be an operation at level `q`. -/
def Left (p q : Nat) : Prop := p < q ∨ q = p ∧ p ∉ o.rightward

/-- The right operand of an operation at level `p` may be an operation at level `q`. -/
def Right (p q : Nat) : Prop := p < q ∨ q = p ∧ p ∈ o.rightward

instance (p q : Nat) : Decidable (o.Left p q) := inferInstanceAs (Decidable (_ ∨ _))

instance (p q : Nat) : Decidable (o.Right p q) := inferInstanceAs (Decidable (_ ∨ _))

end Operators

namespace Language

/-- The tables of a language nest operations according to the levels of their operators. -/
structure Ranks (lang : Language) (d : Accord) (rivals : List (Symbol × Symbol)) (o : Operators) :
    Prop where
  operand : lang.tokenCount ≤ o.operand
  /-- Nodes are formed by tokens that do not stand beside the grammar, and that nothing yields to. -/
  operator : ∀ x ∈ o.levels, lang.tokenCount ≤ x.1 ∧ x.1 ≠ o.operand ∧ x.2.1 < lang.tokenCount
    ∧ x.2.1 ∉ d.anywhere ∧ x.2.1 ≠ lang.wordToken ∧ Parse.isExtraToken lang x.2.1 = false
    ∧ ∀ y ∈ d.instead, y.1 ≠ x.2.1
  /-- An operation is made of two operands and an operator. -/
  operation : ∀ {a b ss token symbol production}, lang.Path a ss b →
    .reduce symbol ss.length production ∈ lang.actions b token → o.Forms symbol →
    ∃ op p, ss = [o.operand, op, o.operand] ∧ (symbol, op, p) ∈ o.levels
  /-- An operand is made of one node, and nothing else is made of an operation. -/
  wraps : ∀ {a b ss token symbol production}, lang.Path a ss b →
    .reduce symbol ss.length production ∈ lang.actions b token →
    (symbol = o.operand → ss.length = 1) ∧ ((∃ s ∈ ss, o.Forms s) → symbol = o.operand)
  /-- Behind the right operand of an operation follow operators that may form it. -/
  right : ∀ {a b c token node op node' op' : Symbol} {p q production : Nat},
    (node, op, p) ∈ o.levels → lang.Path a [o.operand, op, o.operand] b →
    .reduce node 3 production ∈ lang.actions b token →
    (node', op', q) ∈ o.levels → lang.Leads b op' c → o.Right p q
  /-- An operation is reduced on operators that it may be the left operand of. -/
  left : ∀ {a b node op node' op' : Symbol} {p q production : Nat},
    (node, op, q) ∈ o.levels → lang.Path a [o.operand, op, o.operand] b →
    (node', op', p) ∈ o.levels → .reduce node 3 production ∈ lang.actions b op' → o.Left p q
  /-- An operation is reduced on nothing beside the grammar. -/
  clear : ∀ {b token node production}, o.Forms node →
    .reduce node 3 production ∈ lang.actions b token →
      token ∉ d.anywhere ∧ Parse.isExtraToken lang token = false
  /-- If it is reduced on what an operator may be read instead of, that can be used behind it. -/
  strong : ∀ {a m b token node op node' op' : Symbol} {p q production : Nat},
    (node, op, q) ∈ o.levels → lang.Leads a o.operand m → lang.Path m [op, o.operand] b →
    (node', op', p) ∈ o.levels → .reduce node 3 production ∈ lang.actions b token →
    (token, op') ∈ d.instead → (op', token) ∈ rivals ∧ lang.hasActions m token = true
  /-- If it is reduced on a word, an operator that is a keyword could be used too. -/
  word : ∀ {b node node' op' : Symbol} {p production : Nat}, o.Forms node →
    (node', op', p) ∈ o.levels → .reduce node 3 production ∈ lang.actions b lang.wordToken →
    (∃ word, (word, op') ∈ lang.keywords) →
    (lang.wordToken, op') ∈ rivals ∧ lang.hasActions b op' = true

/-- No token is an operation. -/
theorem Ranks.not_forms {lang : Language} {d : Accord} {rivals : List (Symbol × Symbol)} {o : Operators}
    (h : lang.Ranks d rivals o) {s : Symbol} (hs : s < lang.tokenCount) : ¬o.Forms s := by
  rintro ⟨x, hx, rfl⟩
  exact absurd hs (Nat.not_lt.mpr (h.operator x hx).1)

/-! ## Deciding it -/

/-- Some symbols as a number whose bits are set. -/
def bitsOf (ss : List Symbol) : Nat := ss.foldr (fun s m => m ||| 1 <<< s) 0

theorem testBit_bitsOf {s : Symbol} {ss : List Symbol} : (bitsOf ss).testBit s = true ↔ s ∈ ss := by
  induction ss with
  | nil => simp [bitsOf]
  | cons x xs ih =>
    rw [bitsOf, List.foldr_cons, ← bitsOf, Nat.testBit_or, Bool.or_eq_true, ih, Nat.one_shiftLeft,
      Nat.testBit_two_pow, decide_eq_true_eq, List.mem_cons, or_comm, eq_comm]

/-- Sets of symbols that have none in common. -/
theorem not_testBit_of_disjoint {m n : Nat} (h : m &&& n = 0) {s : Symbol} (hs : m.testBit s = true) :
    n.testBit s = false := by
  have hand : (m &&& n).testBit s = false := by simp [h]
  rwa [Nat.testBit_and, hs, Bool.true_and] at hand

/-- Only one symbol is in the set of one. -/
theorem eq_of_testBit_one {s x : Symbol} (h : (1 <<< x).testBit s = true) : s = x := by
  rw [Nat.one_shiftLeft, Nat.testBit_two_pow, decide_eq_true_eq] at h
  exact h.symm

variable (lang : Language) (d : Accord) (rivals : List (Symbol × Symbol)) (o : Operators)

/-- The operators of some of the levels, as a number whose bits are set. -/
def operatorsWhere (keep : Symbol × Symbol × Nat → Bool) : Nat :=
  bitsOf ((o.levels.filter keep).map (·.2.1))

/-- Whether an action shifts a token that is not one that a list is re-entered with. -/
def shifts : Action → Bool
  | .shift _ repetition => !repetition
  | .shiftExtra | .reduce .. | .accept | .recover => false

/-- The tokens that a row shifts. -/
def shiftedBy (row : StateRow) : Nat := tokensOf (row.entries.filter fun e => e.actions.any shifts)

/-- What an operator may be read instead of. -/
def displacing : List (Symbol × Symbol) :=
  d.instead.filter fun y => o.levels.any fun x => x.2.1 == y.2

/-- Whether operations with the operators of an edge may be reduced on some tokens in a row. -/
def edgeRanks (row : StateRow) (tokens : Nat) (node : Symbol) (e : Edge) : Bool :=
  e.symbols &&& operatorsWhere o (fun x => x.1 == node) == e.symbols
    && ((displacing d o).all fun y => !isIn y.1 tokens
      || rivals.contains (y.2, y.1) && seen (fun m => rowActsOn (lang.row m) y.1) e.source)
    && o.levels.all fun x => !isIn x.2.1 e.symbols
      || tokens &&& operatorsWhere o (fun y => !decide (o.Left y.2.2 x.2.2)) == 0
        && shiftedBy row &&& operatorsWhere o (fun y => !decide (o.Right x.2.2 y.2.2)) == 0

/-- Whether a row may reduce something on a word. -/
def rowMindsWords (row : StateRow) : Bool :=
  o.levels.all fun x => !(lang.keywords.map Prod.snd).contains x.2.1
    || rivals.contains (lang.wordToken, x.2.1) && rowActsOn row x.2.1

/-- Whether an action of a state on some tokens nests operations as it should. -/
def actionRanks (row : StateRow) (state : ParseState) (tokens : Nat) : Action → Bool
  | .reduce symbol count _ =>
    (symbol != o.operand || count == 1)
    && (!(o.levels.any fun x => x.1 == symbol) || (count == 3
      && tokens &&& bitsOf (d.anywhere ++ (List.range lang.tokenCount).filter
        (Parse.isExtraToken lang)) == 0
      && (!isIn lang.wordToken tokens || lang.rowMindsWords rivals o row)
      && (lang.edgesInto state).all fun e₃ => e₃.symbols == 1 <<< o.operand
        && seen (fun m₂ => (lang.edgesInto m₂).all fun e₂ =>
          lang.edgeRanks d rivals o row tokens symbol e₂
            && seen (fun m₁ => (lang.edgesInto m₁).all fun e₁ => e₁.symbols == 1 <<< o.operand)
              e₂.source) e₃.source))
  | .shift .. | .shiftExtra | .accept | .recover => true

/-- Whether in a row nothing is done but to reduce an operand. -/
def rowWraps (row : StateRow) : Bool :=
  row.gotos.isEmpty && row.entries.all fun e => e.actions.all fun a => match a with
    | .reduce symbol _ _ => symbol == o.operand
    | .shiftExtra => true
    | .shift .. | .accept | .recover => false

/-- Whether operators and what they form are what they should be. -/
def levelIsSound (x : Symbol × Symbol × Nat) : Bool :=
  lang.tokenCount.ble x.1 && x.1 != o.operand && x.2.1.blt lang.tokenCount
    && !d.anywhere.contains x.2.1 && x.2.1 != lang.wordToken && !Parse.isExtraToken lang x.2.1
    && d.instead.all fun y => y.1 != x.2.1

/-- Decides whether operations are nested according to the levels of their operators. -/
def isRanking : Bool :=
  lang.tokenCount.ble o.operand && o.levels.all (lang.levelIsSound d o)
    && (lang.parseStates.toList.zipIdx.all fun x => seen (fun state => x.1.entries.all fun e =>
      e.actions.all (lang.actionRanks d rivals o x.1 state e.tokens)) x.2)
    && lang.parseStates.toList.all fun row => row.gotos.all fun g =>
      (g.1 <<< lang.tokenCount) &&& bitsOf (o.levels.map (·.1)) == 0
        || seen (fun q => rowWraps o (lang.row q)) g.2

variable {lang d rivals o}

theorem testBit_operatorsWhere {keep : Symbol × Symbol × Nat → Bool} {x : Symbol × Symbol × Nat}
    (hx : x ∈ o.levels) (hkeep : keep x = true) : (operatorsWhere o keep).testBit x.2.1 = true :=
  testBit_bitsOf.mpr (List.mem_map_of_mem (List.mem_filter.mpr ⟨hx, hkeep⟩))

theorem testBit_shiftedBy {state next : ParseState} {token : Symbol}
    (h : .shift next false ∈ lang.actions state token) :
    (shiftedBy (lang.row state)).testBit token = true := by
  obtain ⟨-, -, e, he, hbit, hmem⟩ := mem_actions h
  rw [shiftedBy, testBit_tokensOf, List.any_eq_true]
  exact ⟨e, List.mem_filter.mpr ⟨he, List.any_eq_true.mpr ⟨_, hmem, rfl⟩⟩, hbit⟩

/-- What is known of the edges that an operation is reduced over. -/
structure Reduced (lang : Language) (d : Accord) (rivals : List (Symbol × Symbol)) (o : Operators)
    (b : ParseState) (tokens : Nat) (node : Symbol) : Prop where
  clear : ∀ token, tokens.testBit token = true → token < lang.tokenCount →
    token ∉ d.anywhere ∧ Parse.isExtraToken lang token = false
  word : tokens.testBit lang.wordToken = true → lang.rowMindsWords rivals o (lang.row b) = true
  path : ∀ {a m₁ m₂ s₁ s₂ s₃}, lang.Leads a s₁ m₁ → lang.Leads m₁ s₂ m₂ → lang.Leads m₂ s₃ b →
    s₁ = o.operand ∧ s₃ = o.operand ∧ ∃ e : Edge, e.source = m₁ ∧ e.symbols.testBit s₂ = true
      ∧ lang.edgeRanks d rivals o (lang.row b) tokens node e = true

/-- What is decided of the edge of an operator. -/
structure Ranked (lang : Language) (d : Accord) (rivals : List (Symbol × Symbol)) (o : Operators)
    (row : StateRow) (tokens : Nat) (node op : Symbol) (m : ParseState) : Prop where
  forms : ∃ p, (node, op, p) ∈ o.levels
  strong : ∀ y ∈ d.instead, (∃ x ∈ o.levels, x.2.1 = y.2) → tokens.testBit y.1 = true →
    (y.2, y.1) ∈ rivals ∧ rowActsOn (lang.row m) y.1 = true
  left : ∀ x ∈ o.levels, x.2.1 = op → ∀ y ∈ o.levels, tokens.testBit y.2.1 = true →
    o.Left y.2.2 x.2.2
  right : ∀ x ∈ o.levels, x.2.1 = op → ∀ y ∈ o.levels, (shiftedBy row).testBit y.2.1 = true →
    o.Right x.2.2 y.2.2

theorem ranked_of_edgeRanks {row : StateRow} {tokens : Nat} {node op : Symbol} {e : Edge}
    (h : lang.edgeRanks d rivals o row tokens node e = true) (hbit : e.symbols.testBit op = true) :
    lang.Ranked d rivals o row tokens node op e.source := by
  simp only [edgeRanks, seen_eq, isIn_eq, Bool.and_eq_true, Bool.or_eq_true, Bool.not_eq_true',
    List.all_eq_true, beq_iff_eq, List.contains_iff_mem] at h
  obtain ⟨⟨hnode, hstrong⟩, hlevels⟩ := h
  refine ⟨?_, fun y hy ⟨x, hx, hop⟩ hin => ?_, fun x hx hop y hy hin => ?_,
    fun x hx hop y hy hin => ?_⟩
  · rw [← hnode, Nat.testBit_and, Bool.and_eq_true, operatorsWhere, testBit_bitsOf, List.mem_map]
      at hbit
    obtain ⟨-, ⟨node', op', p⟩, hx, rfl⟩ := hbit
    obtain ⟨hlevel, hsame⟩ := List.mem_filter.mp hx
    obtain rfl : node' = node := by simpa using hsame
    exact ⟨p, hlevel⟩
  · refine (hstrong y (List.mem_filter.mpr ⟨hy, ?_⟩)).resolve_left (by simp [hin])
    exact List.any_eq_true.mpr ⟨x, hx, by simp [hop]⟩
  · obtain ⟨hleft, -⟩ := (hlevels x hx).resolve_left (by simp [hop, hbit])
    by_contra hnot
    have hwrong := not_testBit_of_disjoint hleft hin
    rw [testBit_operatorsWhere hy (by simpa using hnot)] at hwrong
    simp at hwrong
  · obtain ⟨-, hright⟩ := (hlevels x hx).resolve_left (by simp [hop, hbit])
    by_contra hnot
    have hwrong := not_testBit_of_disjoint hright hin
    rw [testBit_operatorsWhere hy (by simpa using hnot)] at hwrong
    simp at hwrong

theorem reduced_of_actionRanks {b : ParseState} {tokens : Nat} {node count production : Nat}
    (h : lang.actionRanks d rivals o (lang.row b) b tokens (.reduce node count production) = true)
    (hforms : o.Forms node) : count = 3 ∧ lang.Reduced d rivals o b tokens node := by
  have hany : (o.levels.any fun x => x.1 == node) = true := by
    obtain ⟨x, hx, rfl⟩ := hforms
    exact List.any_eq_true.mpr ⟨x, hx, by simp⟩
  simp only [actionRanks, hany, seen_eq, isIn_eq, Bool.and_eq_true, Bool.or_eq_true, Bool.not_eq_true',
    Bool.not_true, Bool.false_eq_true, false_or, List.all_eq_true, beq_iff_eq] at h
  obtain ⟨-, ⟨⟨rfl, hclear⟩, hword⟩, hedges⟩ := h
  refine ⟨rfl, fun token hbit hlt => ?_, fun hbit => ?_,
    fun {a m₁ m₂ s₁ s₂ s₃} h₁ h₂ h₃ => ?_⟩
  · have hnot := not_testBit_of_disjoint hclear hbit
    rw [Bool.eq_false_iff, Ne, testBit_bitsOf, List.mem_append, not_or, List.mem_filter,
      List.mem_range] at hnot
    exact ⟨hnot.1, by simpa [hlt] using hnot.2⟩
  · exact hword.resolve_left (by simp [hbit])
  · obtain ⟨e₃, he₃, rfl, hbit₃⟩ := h₃.exists_edge
    obtain ⟨e₂, he₂, rfl, hbit₂⟩ := h₂.exists_edge
    obtain ⟨e₁, he₁, rfl, hbit₁⟩ := h₁.exists_edge
    obtain ⟨hsymbols₃, hbelow⟩ := hedges e₃ he₃
    obtain ⟨hranks, hfirst⟩ := hbelow e₂ he₂
    rw [hsymbols₃] at hbit₃
    rw [hfirst e₁ he₁] at hbit₁
    exact ⟨eq_of_testBit_one hbit₁, eq_of_testBit_one hbit₃, e₂, rfl, hbit₂, hranks⟩

theorem levelIsSound_of_mem (h : lang.isRanking d rivals o = true) {x : Symbol × Symbol × Nat}
    (hx : x ∈ o.levels) : lang.tokenCount ≤ x.1 ∧ x.1 ≠ o.operand ∧ x.2.1 < lang.tokenCount
      ∧ x.2.1 ∉ d.anywhere ∧ x.2.1 ≠ lang.wordToken ∧ Parse.isExtraToken lang x.2.1 = false
      ∧ ∀ y ∈ d.instead, y.1 ≠ x.2.1 := by
  simp only [isRanking, Bool.and_eq_true, List.all_eq_true] at h
  have hlevel := h.1.1.2 x hx
  simp only [levelIsSound, Bool.and_eq_true, Nat.ble_eq, bne_iff_ne, Nat.blt_eq,
    Bool.not_eq_true', List.contains_eq_mem, decide_eq_false_iff_not, List.all_eq_true] at hlevel
  tauto

theorem actionRanks_of_mem (h : lang.isRanking d rivals o = true) {state : ParseState}
    {token : Symbol} {a : Action} (hmem : a ∈ lang.actions state token) :
    ∃ tokens, tokens.testBit token = true ∧ token < lang.tokenCount
      ∧ lang.actionRanks d rivals o (lang.row state) state tokens a = true := by
  obtain ⟨hlt, -, e, he, hbit, hmem⟩ := mem_actions hmem
  simp only [isRanking, seen_eq, Bool.and_eq_true, List.all_eq_true] at h
  exact ⟨e.tokens, hbit, hlt, h.1.2 _ (row_mem_zipIdx he) e he a hmem⟩

/-- Behind an operation nothing is done but to reduce an operand. -/
theorem rowWraps_of_leads (h : lang.isRanking d rivals o = true) {a b : ParseState} {s : Symbol}
    (hleads : lang.Leads a s b) (hforms : o.Forms s) : rowWraps o (lang.row b) = true := by
  obtain ⟨x, hx, rfl⟩ := hforms
  have hhigh := (levelIsSound_of_mem h hx).1
  simp only [isRanking, seen_eq, Bool.and_eq_true, Bool.or_eq_true, List.all_eq_true,
    beq_iff_eq] at h
  rcases hleads with hshift | ⟨-, hb, hnext⟩
  · simp [actions_eq_nil hhigh] at hshift
  · rw [nextState] at hnext
    split at hnext
    · exact absurd hnext.symm hb
    · rw [if_neg (Nat.not_lt.mpr hhigh)] at hnext
      split at hnext
      · next symbols next hfind =>
        subst hnext
        have hgoto := List.mem_of_find?_eq_some hfind
        have hbit := List.find?_some hfind
        rcases row_mem_or_default lang a with hrow | hrow
        · refine (h.2 _ hrow _ hgoto).resolve_left fun hnone => ?_
          have hin : (symbols <<< lang.tokenCount).testBit x.1 = true := by
            rw [Nat.testBit_shiftLeft]
            simpa [hhigh] using hbit
          have hout := not_testBit_of_disjoint hnone hin
          rw [testBit_bitsOf.mpr (List.mem_map_of_mem hx)] at hout
          simp at hout
        · rw [hrow] at hgoto
          simp [default, instInhabitedStateRow.default] at hgoto
      · exact absurd hnext.symm hb

/-- Nothing leads on from behind an operation. -/
theorem not_leads_of_rowWraps {b c : ParseState} {s : Symbol} (h : rowWraps o (lang.row b) = true) :
    ¬lang.Leads b s c := by
  simp only [rowWraps, Bool.and_eq_true, List.isEmpty_iff, List.all_eq_true] at h
  rintro (hshift | ⟨hhigh, hc, hnext⟩)
  · obtain ⟨-, -, e, he, -, hmem⟩ := mem_actions hshift
    exact absurd (h.2 e he _ hmem) (by simp)
  · rw [nextState] at hnext
    split at hnext
    · exact hc hnext.symm
    · rw [if_neg (Nat.not_lt.mpr hhigh), h.1] at hnext
      exact hc hnext.symm

/-- An operation on a path that ends in a reduction is the last thing on it. -/
theorem operand_of_mem_path (h : lang.isRanking d rivals o = true) {a b : ParseState}
    {ss : List Symbol} {symbol count production : Nat} {token : Symbol} (hpath : lang.Path a ss b)
    (hmem : .reduce symbol count production ∈ lang.actions b token)
    (hforms : ∃ s ∈ ss, o.Forms s) : symbol = o.operand := by
  obtain ⟨s, hs, hforms⟩ := hforms
  obtain ⟨front, back, rfl⟩ := List.append_of_mem hs
  obtain ⟨m, -, m', hleads, hback⟩ := path_append.mp hpath
  have hwraps := rowWraps_of_leads h hleads hforms
  cases back with
  | nil =>
    obtain rfl : m' = b := hback
    obtain ⟨-, -, e, he, -, hmem⟩ := mem_actions hmem
    simp only [rowWraps, Bool.and_eq_true, List.all_eq_true] at hwraps
    simpa using hwraps.2 e he _ hmem
  | cons s' back =>
    obtain ⟨m'', hleads', -⟩ := hback
    exact absurd hleads' (not_leads_of_rowWraps hwraps)

/-- An operation is reduced over three edges. -/
theorem exists_reduced (h : lang.isRanking d rivals o = true) {b node count production : Nat}
    {token : Symbol} (hmem : .reduce node count production ∈ lang.actions b token)
    (hforms : o.Forms node) : count = 3 ∧ ∃ tokens, tokens.testBit token = true
      ∧ token < lang.tokenCount ∧ lang.Reduced d rivals o b tokens node := by
  obtain ⟨tokens, hbit, hlt, hranks⟩ := actionRanks_of_mem h hmem
  obtain ⟨hcount, hred⟩ := reduced_of_actionRanks hranks hforms
  exact ⟨hcount, tokens, hbit, hlt, hred⟩

/-- An operation is reduced over two operands, and over the edge of an operator between them. -/
theorem exists_ranked (h : lang.isRanking d rivals o = true) {a m b node count production : Nat}
    {s₁ op s₃ token : Symbol} (hmem : .reduce node count production ∈ lang.actions b token)
    (hforms : o.Forms node) (h₁ : lang.Leads a s₁ m) (hpath : lang.Path m [op, s₃] b) :
    s₁ = o.operand ∧ s₃ = o.operand ∧ ∃ tokens, tokens.testBit token = true
      ∧ token < lang.tokenCount ∧ lang.Ranked d rivals o (lang.row b) tokens node op m := by
  obtain ⟨-, tokens, hbit, hlt, hred⟩ := exists_reduced h hmem hforms
  obtain ⟨m', h₂, m'', h₃, rfl⟩ := hpath
  obtain ⟨hfirst, hlast, e, rfl, hop, hranks⟩ := hred.path h₁ h₂ h₃
  exact ⟨hfirst, hlast, tokens, hbit, hlt, ranked_of_edgeRanks hranks hop⟩

theorem ranks_of_isRanking (h : lang.isRanking d rivals o = true) : lang.Ranks d rivals o where
  operand := by
    simp only [isRanking, Bool.and_eq_true, Nat.ble_eq] at h
    exact h.1.1.1
  operator := fun x hx => levelIsSound_of_mem h hx
  operation := fun {a b ss token symbol production} hpath hreduce hforms => by
    obtain ⟨hcount, -⟩ := exists_reduced h hreduce hforms
    obtain ⟨s₁, s₂, s₃, rfl⟩ := List.length_eq_three.mp hcount
    obtain ⟨m, h₁, hrest⟩ := hpath
    obtain ⟨rfl, rfl, _, -, -, hrank⟩ := exists_ranked h hreduce hforms h₁ hrest
    obtain ⟨p, hp⟩ := hrank.forms
    exact ⟨s₂, p, rfl, hp⟩
  wraps := fun {a b ss token symbol production} hpath hreduce => by
    refine ⟨fun hsymbol => ?_, operand_of_mem_path h hpath hreduce⟩
    obtain ⟨tokens, -, -, hranks⟩ := actionRanks_of_mem h hreduce
    simp only [actionRanks, Bool.and_eq_true, Bool.or_eq_true, bne_iff_ne, beq_iff_eq] at hranks
    exact hranks.1.resolve_left (not_not.mpr hsymbol)
  right := fun {a b c token node op node' op' p q production} hp hpath hreduce hq hleads => by
    obtain ⟨m, h₁, hrest⟩ := hpath
    obtain ⟨-, -, _, -, -, hrank⟩ := exists_ranked h hreduce (Operators.forms_of_mem hp) h₁ hrest
    have hlow := (levelIsSound_of_mem h hq).2.2.1
    refine hrank.right _ hp rfl _ hq ?_
    rcases hleads with hshift | ⟨hhigh, -⟩
    · exact testBit_shiftedBy hshift
    · exact absurd hlow (Nat.not_lt.mpr hhigh)
  left := fun {a b node op node' op' p q production} hq hpath hp hreduce => by
    obtain ⟨m, h₁, hrest⟩ := hpath
    obtain ⟨-, -, tokens, hbit, -, hrank⟩ :=
      exists_ranked h hreduce (Operators.forms_of_mem hq) h₁ hrest
    exact hrank.left _ hq rfl _ hp hbit
  clear := fun {b token node production} hforms hreduce => by
    obtain ⟨-, tokens, hbit, hlt, hred⟩ := exists_reduced h hreduce hforms
    exact hred.clear token hbit hlt
  strong := fun {a m b token node op node' op' p q production} hq h₁ hrest hp hreduce hinstead => by
    obtain ⟨-, -, tokens, hbit, hlt, hrank⟩ :=
      exists_ranked h hreduce (Operators.forms_of_mem hq) h₁ hrest
    obtain ⟨hrival, hacts⟩ := hrank.strong _ hinstead ⟨_, hp, rfl⟩ hbit
    exact ⟨hrival, (hasActions_eq hlt).trans hacts⟩
  word := fun {b node node' op' p production} hforms hp hreduce hkeyword => by
    obtain ⟨-, tokens, hbit, -, hred⟩ := exists_reduced h hreduce hforms
    have hminds := hred.word hbit
    simp only [rowMindsWords, Bool.and_eq_true, Bool.or_eq_true, Bool.not_eq_true',
      List.all_eq_true, List.contains_eq_mem, decide_eq_true_eq, decide_eq_false_iff_not] at hminds
    obtain ⟨word, hword⟩ := hkeyword
    obtain ⟨hrival, hacts⟩ := (hminds _ hp).resolve_left
      (not_not.mpr (List.mem_map_of_mem (f := Prod.snd) hword))
    exact ⟨hrival, (hasActions_eq (levelIsSound_of_mem h hp).2.2.1).trans hacts⟩

end Language

namespace Harneet

/-- The operators of Harneet's binary expressions and how tightly they bind. -/
def precedence : List (String × Nat) :=
  [("or", 1), ("and", 2), ("==", 3), ("!=", 3), ("<", 3), (">", 3), ("<=", 3), (">=", 3), ("|", 4),
    ("^", 4), ("&", 5), ("<<", 6), (">>", 6), ("+", 7), ("-", 7), ("*", 8), ("/", 8), ("%", 8),
    ("**", 9)]

/-- The operators of Harneet: a pipe binds less than all others, and `**` leans to the right. -/
def operators : Operators where
  operand := symbolNamed "expression"
  levels := (symbolNamed "pipe_expression", symbolNamed "|>", 0) :: precedence.map fun x =>
    (symbolNamed "binary_expression", symbolNamed x.1, x.2)
  rightward := [9]

set_option maxRecDepth 100000 in
/-- Reductions lead on, rivals are resolved and operations are nested in Harneet's tables.  It is decided
at once, since all of it takes a look at the same paths. -/
theorem decided : (language.isClosing && language.isResolving accord rivals
    && language.isRanking accord rivals operators) = true := by
  decide +kernel

/-- **Reductions lead on in Harneet's tables.** -/
theorem closing : language.Closing := by
  have h := decided
  simp only [Bool.and_eq_true] at h
  exact Language.closing_of_isClosing h.1.1

/-- **Harneet's tables resolve the rivals of its operators.** -/
theorem resolves : language.Resolves accord rivals := by
  have h := decided
  simp only [Bool.and_eq_true] at h
  exact Language.resolves_of_isResolving h.1.2

/-- **Harneet's tables nest operations according to the levels of their operators.** -/
theorem ranks : language.Ranks accord rivals operators := by
  have h := decided
  simp only [Bool.and_eq_true] at h
  exact Language.ranks_of_isRanking h.2

end Harneet

end SyntaxKit
