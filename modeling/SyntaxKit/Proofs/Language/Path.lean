import Mathlib.Data.List.Forall2
import Mathlib.Data.Nat.Bitwise
import SyntaxKit.Proofs.Language.Orderly

/-!
# Paths of a parse automaton

What lies on the stack of a parser is a path of its automaton (`Language.Path`), and when a reduction
is made, the path ends in the state in which it is made.  So a condition on everything that a
reduction may ever take from a stack is a condition on the paths of a length that end in a state.
`Language.backward` decides such a condition by going back along the edges of the automaton, over
sets of symbols where these lead the same way (`chosen_of_backward`).
-/

namespace SyntaxKit

/-- Some symbols that lead from one state to another, as a number whose bits are set. -/
structure Edge where
  source : ParseState
  symbols : Nat
  target : ParseState

namespace Language

variable (lang : Language)

/-! ## The edges of an automaton -/

/-- The edges that an entry of a state gives. -/
def entryEdges (state : ParseState) (e : Entry) : List Edge :=
  e.actions.filterMap fun
    | .shift next false => some ⟨state, e.tokens, next⟩
    | .shift _ true | .shiftExtra | .reduce .. | .accept | .recover => none

/-- The edges that leave a state. -/
def rowEdges (state : ParseState) (row : StateRow) : List Edge :=
  row.entries.flatMap (entryEdges state)
    ++ row.gotos.map fun g => ⟨state, g.1 <<< lang.tokenCount, g.2⟩

/-- All edges. -/
def edges : List Edge := lang.parseStates.toList.zipIdx.flatMap fun x => lang.rowEdges x.2 x.1

/-- The edges that meet a condition.  This is `List.filter`, put so that the kernel has few terms to
build for an edge: all edges are filtered in the course of a check. -/
def keep (p : Edge → Bool) : List Edge → List Edge :=
  @List.rec Edge (fun _ => List Edge) []
    fun e _ kept => @Bool.rec (fun _ => List Edge) kept (e :: kept) (p e)

/-- Of some edges those that lead to a state, found by halving the range of the states; `low` is the
first of the range. -/
def narrow : Nat → ParseState → List Edge → ParseState → List Edge
  | 0, _, es, _ => es
  | n + 1, low, es, q =>
    if (low + Nat.pow 2 n).ble q then
      narrow n (low + Nat.pow 2 n) (keep (fun e => (low + Nat.pow 2 n).ble e.target) es) q
    else narrow n low (keep (fun e => !(low + Nat.pow 2 n).ble e.target) es) q

/-- The edges that lead to a state. -/
def edgesInto (q : ParseState) : List Edge := narrow 10 0 lang.edges q

/-- A symbol leads from a state to another, which is not that of recovery. -/
def Leads (a : ParseState) (s : Symbol) (b : ParseState) : Prop :=
  .shift b false ∈ lang.actions a s
    ∨ lang.tokenCount ≤ s ∧ b ≠ ParseState.recovering ∧ lang.nextState a s = b

/-- Some symbols lead from a state to another. -/
def Path : ParseState → List Symbol → ParseState → Prop
  | a, [], b => a = b
  | a, s :: ss, b => ∃ m, lang.Leads a s m ∧ Path m ss b

variable {lang}

theorem keep_eq_filter (p : Edge → Bool) (es : List Edge) : keep p es = es.filter p := by
  induction es with
  | nil => rfl
  | cons e es ih =>
    rw [List.filter_cons, ← ih]
    change @Bool.rec (fun _ => List Edge) (keep p es) (e :: keep p es) (p e) = _
    cases p e with
    | false => rfl
    | true => rfl

theorem mem_narrow {es : List Edge} {e : Edge} (he : e ∈ es) (n : Nat) (low : ParseState) :
    e ∈ narrow n low es e.target := by
  induction n generalizing es low with
  | zero => exact he
  | succ n ih =>
    rw [narrow, keep_eq_filter, keep_eq_filter]
    split
    · next h => exact ih (List.mem_filter.mpr ⟨he, h⟩) _
    · next h =>
      rw [Bool.not_eq_true] at h
      exact ih (List.mem_filter.mpr ⟨he, by rw [h]; rfl⟩) _

/-- What leads from a state to another stands on an edge. -/
theorem Leads.exists_edge {a b : ParseState} {s : Symbol} (h : lang.Leads a s b) :
    ∃ e ∈ lang.edgesInto b, e.source = a ∧ e.symbols.testBit s = true := by
  obtain ⟨e, he, hsource, htarget, hbit⟩ : ∃ e ∈ lang.rowEdges a (lang.row a), e.source = a
      ∧ e.target = b ∧ e.symbols.testBit s = true := by
    rcases h with h | ⟨hs, hb, h⟩
    · obtain ⟨-, -, e, he, hbit, hmem⟩ := mem_actions h
      refine ⟨⟨a, e.tokens, b⟩, List.mem_append_left _ ?_, rfl, rfl, hbit⟩
      exact List.mem_flatMap.mpr ⟨e, he, List.mem_filterMap.mpr ⟨_, hmem, rfl⟩⟩
    · rw [nextState] at h
      split at h
      · exact absurd h.symm hb
      · rw [if_neg (Nat.not_lt.mpr hs)] at h
        split at h
        · next symbols next hfind =>
          subst h
          have hbit := List.find?_some hfind
          refine ⟨⟨a, symbols <<< lang.tokenCount, next⟩, List.mem_append_right _ ?_, rfl, rfl, ?_⟩
          · exact List.mem_map.mpr ⟨_, List.mem_of_find?_eq_some hfind, rfl⟩
          · rw [Nat.testBit_shiftLeft]
            simpa [hs] using hbit
        · exact absurd h.symm hb
  have hedges : e ∈ lang.edges := by
    rcases row_mem_zipIdx_or_default lang a with hrow | hrow
    · exact List.mem_flatMap.mpr ⟨_, hrow, he⟩
    · rw [hrow] at he
      simp [rowEdges, default, instInhabitedStateRow.default] at he
  subst htarget
  exact ⟨e, mem_narrow hedges 10 0, hsource, hbit⟩

theorem path_append {a b : ParseState} {ss us : List Symbol} :
    lang.Path a (ss ++ us) b ↔ ∃ m, lang.Path a ss m ∧ lang.Path m us b := by
  induction ss generalizing a with
  | nil => simp [Path]
  | cons s ss ih =>
    simp only [List.cons_append, Path, ih]
    constructor
    · rintro ⟨m, hm, l, hl, hrest⟩
      exact ⟨l, ⟨m, hm, hl⟩, hrest⟩
    · rintro ⟨l, ⟨m, hm, hl⟩, hrest⟩
      exact ⟨m, hm, l, hl, hrest⟩

theorem path_concat {a b : ParseState} {ss : List Symbol} {s : Symbol} :
    lang.Path a (ss ++ [s]) b ↔ ∃ m, lang.Path a ss m ∧ lang.Leads m s b := by
  simp [path_append, Path]

/-! ## Going back -/

/-- What a function makes of a number.  A case split on the number makes the kernel compute it before
the function sees it, so that two ways of writing one number are looked at once. -/
def seen {α : Type} (f : Nat → α) : Nat → α
  | 0 => f 0
  | n + 1 => f (n + 1)

@[simp] theorem seen_eq {α : Type} (f : Nat → α) (n : Nat) : seen f n = f n := by
  cases n <;> rfl

variable (lang)

/-- Whether a condition holds of the sets of symbols on all paths of a length to a state; `behind` is
what follows.  At the beginning of a path it makes no difference where a set leads from. -/
def backward (check : List Nat → Bool) : Nat → ParseState → List Nat → Bool
  | 0, _, behind => check behind
  | 1, q, behind => (lang.edgesInto q).all fun e => seen (fun m => check (m :: behind)) e.symbols
  | n + 2, q, behind => (lang.edgesInto q).all fun e =>
      seen (fun a => seen (fun m => backward check (n + 1) a (m :: behind)) e.symbols) e.source

variable {lang}

/-- Going back over an edge leaves the condition to hold of what is before it. -/
theorem backward_of_mem {check : List Nat → Bool} {n : Nat} {q : ParseState} {behind : List Nat}
    (h : lang.backward check (n + 1) q behind = true) {e : Edge} (he : e ∈ lang.edgesInto q) :
    lang.backward check n e.source (e.symbols :: behind) = true := by
  cases n with
  | zero =>
    rw [backward, List.all_eq_true] at h
    simpa [backward] using h e he
  | succ n =>
    rw [backward, List.all_eq_true] at h
    simpa using h e he

/-- **The symbols on a path are chosen from sets of which the condition holds.** -/
theorem chosen_of_backward {check : List Nat → Bool} {n : Nat} {a b : ParseState}
    {ss : List Symbol} {behind : List Nat} (h : lang.backward check n b behind = true)
    (hpath : lang.Path a ss b) (hlength : ss.length = n) :
    ∃ ms, List.Forall₂ (fun (s : Symbol) (m : Nat) => m.testBit s = true) ss ms
      ∧ check (ms ++ behind) = true := by
  induction n generalizing b ss behind with
  | zero =>
    obtain rfl := List.length_eq_zero_iff.mp hlength
    exact ⟨[], .nil, h⟩
  | succ n ih =>
    obtain ⟨front, s, rfl⟩ : ∃ front s, ss = front ++ [s] := by
      have hne : ss ≠ [] := by
        rintro rfl
        simp at hlength
      exact ⟨_, _, (List.dropLast_concat_getLast hne).symm⟩
    obtain ⟨m, hfront, hlast⟩ := path_concat.mp hpath
    obtain ⟨e, he, rfl, hbit⟩ := hlast.exists_edge
    obtain ⟨ms, hms, hcheck⟩ := ih (backward_of_mem h he) hfront (by simpa using hlength)
    refine ⟨ms ++ [e.symbols], ?_, by simpa using hcheck⟩
    exact List.rel_append hms (.cons hbit .nil)

end Language

end SyntaxKit
