import SyntaxKit.Proofs.Language.Generated
import SyntaxKit.Proofs.Query.Analysed
import SyntaxKit.Query.Basic

/-!
# Showing that a query can be compiled

That a step of a query is feasible is shown by a sample: the children of a node that the step asks for,
and if the wanted one is inside the last of them, the children of that one, and so on.  What a sample
says is checked by running the parse automaton over it (`Language.offersAlong`), and a query all of whose
steps have a sample is compiled (`compile_ok`).
-/

namespace SyntaxKit

open Query Grammar

namespace Language

variable {lang : Language}

/-! ## Samples of nodes -/

section Check

variable (lang)

/-- The symbol of a kind. -/
def symbolOf (k : Kind) : Symbol := (lang.symbolsOf k).log2

/-- The production of the node of a symbol that is complete behind some children; `count` others have
led to the state. -/
def productionOf? (symbol : Symbol) : Nat → ParseState → List Symbol → Option Nat
  | count, state, [] =>
    match (Derivation.completionsOf (lang.row state)).find? (·.1 == symbol) with
    | some (_, spot) =>
      if spot.complete && spot.children == count then some spot.production else none
    | none => none
  | count, state, child :: others =>
    let next := lang.nextState state child
    if next = 0 || next = state || lang.parseStates.size.ble next || lang.symbols.size.ble child then none
    else productionOf? symbol (count + 1) next others

/-- A state in which a node of a symbol can begin. -/
def beginning? (symbol : Symbol) : Option ParseState :=
  (lang.parseStates.toList.zipIdx.find? fun x => x.2 != 0 && x.1.core == x.2
    && x.1.gotos.any fun g => g.1.testBit (symbol - lang.tokenCount)).map (·.2)

variable (wants : Symbol → Option String → Bool)

/-- Whether one of some children is wanted, or the last of them is hidden and what is wanted is
inside. -/
def offersAmong (inside : Symbol → Option String → ParseState → Bool) (production : Nat)
    (field : Option String) : Nat → ParseState → List Symbol → Bool
  | _, _, [] => false
  | count, state, child :: others =>
    let field' := field.orElse fun _ => lang.fieldOf? production count
    wants child field'
      || if lang.isVisible child || child.blt lang.tokenCount then
          !others.isEmpty && offersAmong inside production field (count + 1)
            (lang.nextState state child) others
        else others.isEmpty && inside child field' state

/-- Whether a node of a symbol offers what is wanted, going by the children of the node, of its last
child, and so on. -/
def offersAlong : List (List Symbol) → Symbol → Option String → ParseState → Bool
  | [], _, _, _ => false
  | children :: below, symbol, field, state =>
    match lang.productionOf? symbol 0 state children with
    | some production =>
      lang.offersAmong wants (offersAlong below) production field 0 state children
    | none => false

end Check

/-- If a state moves on over a token, the actions on the token say where to. -/
theorem shiftTarget?_eq_nextState {state : ParseState} {s : Symbol} {e : Entry}
    (htoken : s < lang.tokenCount) (h : lang.nextState state s ≠ 0)
    (hfind : (lang.row state).entries.find? (·.tokens.testBit s) = some e) :
    Derivation.shiftTarget? state e.actions = some (lang.nextState state s) := by
  by_cases herror : s = Symbol.error ∨ s = Symbol.skipped
  · rw [nextState, if_pos herror] at h
    exact absurd rfl h
  · rw [nextState, if_neg herror, if_pos htoken, actions, entry?, if_pos htoken, hfind] at h ⊢
    simp only [Option.map_some, Option.getD_some] at h ⊢
    rw [Derivation.shiftTarget?]
    split <;> simp_all

theorem mem_movesOf_nextState {state : ParseState} {s : Symbol} (h : lang.nextState state s ≠ 0)
    (hbound : s < lang.symbols.size) :
    (s, lang.nextState state s) ∈ Derivation.movesOf lang state := by
  rw [Derivation.movesOf, List.mem_append]
  by_cases htoken : s < lang.tokenCount
  · left
    cases hfind : (lang.row state).entries.find? (·.tokens.testBit s) with
    | none =>
      rw [nextState, if_pos htoken, actions, entry?, if_pos htoken, hfind] at h
      split at h <;> exact absurd rfl h
    | some e =>
      refine List.mem_flatMap.mpr ⟨e, List.mem_of_find?_eq_some hfind, ?_⟩
      simp only [shiftTarget?_eq_nextState htoken h hfind]
      refine List.mem_map.mpr ⟨s, Derivation.mem_bits.mpr ⟨htoken, ?_⟩, rfl⟩
      simpa using List.find?_some hfind
  · right
    revert h
    rw [nextState, if_neg htoken]
    split
    · exact fun h => absurd rfl h
    intro h
    cases hfind : (lang.row state).gotos.find? (·.1.testBit (s - lang.tokenCount)) with
    | none => simp [hfind] at h
    | some g =>
      simp only [hfind] at h ⊢
      refine List.mem_flatMap.mpr ⟨g, List.mem_of_find?_eq_some hfind, ?_⟩
      have hle := Nat.le_of_not_lt htoken
      refine List.mem_map.mpr ⟨s - lang.tokenCount, Derivation.mem_bits.mpr ⟨?_, ?_⟩, ?_⟩
      · exact Nat.sub_lt_sub_right hle hbound
      · simpa using List.find?_some hfind
      · rw [Nat.add_sub_cancel' hle]

theorem next_of_productionOf? {symbol child : Symbol} {production count : Nat}
    {state : ParseState} {others : List Symbol}
    (h : lang.productionOf? symbol count state (child :: others) = some production) :
    child < lang.symbols.size
      ∧ (child, lang.nextState state child) ∈ Derivation.movesOf lang state
      ∧ lang.nextState state child ≠ state ∧ Derivation.IsState lang (lang.nextState state child)
      ∧ lang.productionOf? symbol (count + 1) (lang.nextState state child) others
        = some production := by
  rw [productionOf?] at h
  split at h
  · simp at h
  · next hfine =>
    simp only [Bool.or_eq_true, decide_eq_true_eq, Nat.ble_eq, not_or, Nat.not_le] at hfine
    obtain ⟨⟨⟨hnone, hleaves⟩, hrow⟩, hchild⟩ := hfine
    exact ⟨hchild, mem_movesOf_nextState hnone hchild, hleaves, ⟨Nat.pos_of_ne_zero hnone, hrow⟩, h⟩

theorem builds_of_productionOf? {symbol : Symbol} {production : Nat} {children : List Symbol} :
    ∀ {count : Nat} {state : ParseState}, Derivation.IsState lang state →
      lang.productionOf? symbol count state children = some production →
      lang.Builds symbol production count state children := by
  induction children with
  | nil =>
    intro count state hstate h
    rw [productionOf?] at h
    split at h
    · next symbol' spot hfind =>
      have hsymbol : symbol' = symbol := by simpa using List.find?_some hfind
      split at h
      · next hfine =>
        simp only [Bool.and_eq_true, beq_iff_eq] at hfine
        obtain ⟨hcomplete, hcount⟩ := hfine
        refine .complete hstate ?_
        rw [hfind, hsymbol, ← hcomplete, ← hcount, ← Option.some.inj h]
      · simp at h
    · simp at h
  | cons child others ih =>
    intro count state hstate h
    obtain ⟨hbound, hmove, hleaves, hnext, hothers⟩ := next_of_productionOf? h
    exact .child hstate hmove hleaves (ih hnext hothers)

/-- What is found along a sample is offered. -/
theorem offers_of_offersAmong {wants : Symbol → Option String → Bool}
    {inside : Symbol → Option String → ParseState → Bool}
    (hinside : ∀ {symbol field state}, inside symbol field state = true →
      Derivation.IsState lang state → Survey.Offers lang wants symbol field 0 state)
    {symbol : Symbol} {field : Option String} {production : Nat} {children : List Symbol} :
    ∀ {count : Nat} {state : ParseState}, Derivation.IsState lang state →
      lang.productionOf? symbol count state children = some production →
      lang.offersAmong wants inside production field count state children = true →
      Survey.Offers lang wants symbol field count state := by
  induction children with
  | nil => intro count state _ _ h; simp [offersAmong] at h
  | cons child others ih =>
    intro count state hstate hproduction h
    obtain ⟨hbound, hmove, hleaves, hnext, hothers⟩ := next_of_productionOf? hproduction
    have hcontinues : Survey.Continues lang symbol production count state child
        (lang.nextState state child) others :=
      ⟨hstate, hmove, hleaves, builds_of_productionOf? hnext hothers⟩
    rw [offersAmong, Bool.or_eq_true] at h
    rcases h with hwanted | h
    · exact .here hcontinues hwanted
    split at h
    · next hshown =>
      simp only [Bool.or_eq_true, Nat.blt_eq] at hshown
      simp only [Bool.and_eq_true, Bool.not_eq_true', List.isEmpty_eq_false_iff] at h
      obtain ⟨hsome, h⟩ := h
      obtain ⟨other, others, rfl⟩ := List.exists_cons_of_ne_nil hsome
      exact .past hcontinues hshown (ih hnext hothers h)
    · next hhidden =>
      simp only [Bool.or_eq_true, Nat.blt_eq, not_or, Bool.not_eq_true, Nat.not_lt] at hhidden
      simp only [Bool.and_eq_true, List.isEmpty_iff] at h
      obtain ⟨rfl, h⟩ := h
      exact .into hcontinues ⟨hhidden.2, hbound, hhidden.1⟩ (hinside h hstate)

/-- **What a sample shows is offered.** -/
theorem offers_of_offersAlong {wants : Symbol → Option String → Bool} {sample : List (List Symbol)} :
    ∀ {symbol : Symbol} {field : Option String} {state : ParseState},
      lang.offersAlong wants sample symbol field state = true → Derivation.IsState lang state →
      Survey.Offers lang wants symbol field 0 state := by
  induction sample with
  | nil => intro symbol field state h; simp [offersAlong] at h
  | cons children below ih =>
    intro symbol field state h hstate
    rw [offersAlong] at h
    split at h
    · next production hproduction => exact offers_of_offersAmong ih hstate hproduction h
    · simp at h

/-- A node may begin in the state that is found for it. -/
theorem beginning?_spec {symbol : Symbol} {state : ParseState}
    (h : lang.beginning? symbol = some state) (htoken : lang.tokenCount ≤ symbol)
    (hbound : symbol < lang.symbols.size) : Derivation.IsState lang state
      ∧ state ∈ (Derivation.ofLanguage lang).beginningsOf symbol := by
  obtain ⟨x, hfind, rfl⟩ := Option.map_eq_some_iff.mp h
  have hbegins := List.find?_some hfind
  simp only [Bool.and_eq_true, bne_iff_ne, beq_iff_eq, List.any_eq_true] at hbegins
  obtain ⟨⟨hne, hcore⟩, g, hgoto, hbit⟩ := hbegins
  have hrow := List.mem_zipIdx_iff_getElem?.mp (List.mem_of_find?_eq_some hfind)
  rw [Array.getElem?_toList] at hrow
  obtain ⟨hlt, -⟩ := Array.getElem?_eq_some_iff.mp hrow
  have heq : lang.row x.2 = x.1 := by
    rw [row, Array.getD_eq_getD_getElem?, hrow, Option.getD_some]
  have hstate : Derivation.IsState lang x.2 := ⟨Nat.pos_of_ne_zero hne, hlt⟩
  exact ⟨hstate, Derivation.mem_beginningsOf hstate (heq ▸ hcore) hbound (heq ▸ hgoto) htoken hbit⟩

end Language

namespace Query

variable {lang : Language}

/-- A symbol with a sample of its nodes. -/
abbrev Sample := Symbol × List (List Symbol)

/-- Whether one of some samples shows that a step that asks for a node of a symbol is feasible. -/
def Program.isFeasible (lang : Language) (samples : List Sample) (p : Program)
    (parent : Nat × Symbol) : Bool :=
  decide (Survey.AsksOne p (parent.1 + 1)) && lang.tokenCount.ble parent.2
    && parent.2.blt lang.symbols.size
    && match lang.beginning? parent.2 with
      | some state => samples.any fun x => x.1 == parent.2
        && lang.offersAlong (Survey.fits lang (p.step (parent.1 + 1))) x.2 parent.2 none state
      | none => false

theorem Program.feasible_of_isFeasible {samples : List Sample} {p : Program} {parent : Nat × Symbol}
    (h : p.isFeasible lang samples parent = true) : p.Feasible lang parent.1 parent.2 := by
  simp only [isFeasible, Bool.and_eq_true, decide_eq_true_eq, Nat.ble_eq, Nat.blt_eq] at h
  obtain ⟨⟨⟨hasks, htoken⟩, hbound⟩, h⟩ := h
  split at h
  · next state hbegins =>
    obtain ⟨hstate, hbegin⟩ := Language.beginning?_spec hbegins htoken hbound
    obtain ⟨x, -, hx⟩ := List.any_eq_true.mp h
    exact ⟨hasks, state, hbegin, Language.offers_of_offersAlong (Bool.and_eq_true_iff.mp hx).2 hstate⟩
  · simp at h

/-- **A query without conditions all of whose steps are feasible is compiled**, to the program of its
patterns. -/
theorem compile_ok {text : List Char} {entries : List Reading.Entry} {captures : List String}
    (hread : read lang text = .ok (entries, captures)) (hclauses : ∀ e ∈ entries, e.clauses = [])
    (hfeasible : ∀ parent ∈ (Program.ofPatterns (entries.map (·.pattern))).parents,
      (Program.ofPatterns (entries.map (·.pattern))).Feasible lang parent.1 parent.2) :
    ∃ q, compile lang text = .ok q
      ∧ q.program.unmarked = (Program.ofPatterns (entries.map (·.pattern))).unmarked
      ∧ ∀ cs ∈ q.conditions, cs = [] := by
  obtain ⟨program, hok, hprogram⟩ :=
    Program.analyse_ok hfeasible (entries.map fun e => e.clauses.flatMap (·.mentioned))
  have hresolve : ∀ {es : List Reading.Entry}, (∀ e ∈ es, e.clauses = []) →
      es.mapM (resolveEntry text captures) = .ok (es.map fun _ => []) := by
    intro es
    induction es with
    | nil => exact fun _ => rfl
    | cons e es ih =>
      intro hes
      obtain ⟨he, hes⟩ := List.forall_mem_cons.mp hes
      rw [List.mapM_cons, ih hes, resolveEntry, he]
      rfl
  refine ⟨⟨captures.toArray, program, (entries.map fun _ => []).toArray⟩, ?_, hprogram, ?_⟩
  · rw [compile, compileWith, hread]
    simp only [bind, Except.bind, hok, hresolve hclauses]
  · intro cs hcs
    obtain ⟨-, hnil⟩ : entries ≠ [] ∧ cs = [] := by simpa using hcs
    exact hnil

end Query

end SyntaxKit
