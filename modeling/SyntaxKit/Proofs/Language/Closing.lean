import SyntaxKit.Proofs.Language.Path

/-!
# Reductions lead on

When a reduction is made, its node has to lead on from the state that the path of its children began
in; otherwise the parser would be lost in the middle of a text that is in order.  `Language.Closing`
says so of all paths that end in a reduction, and that only the state of recovery recovers and no
token leads to it.

`Language.isClosing` decides it for sets of states, which are numbers whose bits are set: those in which
the paths to a state begin (`Language.basesOf`) are among those that lead on over the node.
-/

namespace SyntaxKit

namespace Language

/-- A parser that has met no error is never lost. -/
structure Closing (lang : Language) : Prop where
  reduce : ∀ {a b ss token symbol production}, lang.Path a ss b →
    .reduce symbol ss.length production ∈ lang.actions b token →
      lang.nextState a symbol ≠ ParseState.recovering
  shift : ∀ {state token next}, .shift next false ∈ lang.actions state token →
    next ≠ ParseState.recovering
  recover : ∀ {state token}, .recover ∈ lang.actions state token → state = ParseState.recovering

/-! ## Sets of numbers -/

/-- Whether a number is in a set.  This is `Nat.testBit`, put so that the kernel has few terms to build
for it. -/
def isIn (n m : Nat) : Bool := Nat.ble 1 (Nat.land m (Nat.shiftLeft 1 n))

@[simp] theorem isIn_eq (n m : Nat) : isIn n m = m.testBit n := by
  have hland : Nat.land m (Nat.shiftLeft 1 n) = m &&& 2 ^ n := by
    rw [← Nat.one_shiftLeft]
    rfl
  rw [isIn, hland, Nat.and_two_pow]
  cases m.testBit n with
  | false => rw [Bool.toNat_false, Nat.zero_mul]; rfl
  | true => simpa using Nat.one_le_two_pow

/-- Whether all numbers of one set are in another one. -/
def isWithin (m n : Nat) : Bool := m &&& n == m

theorem testBit_of_isWithin {m n k : Nat} (h : isWithin m n = true) (hk : m.testBit k = true) :
    n.testBit k = true := by
  rw [isWithin, beq_iff_eq] at h
  rw [← h, Nat.testBit_and, Bool.and_eq_true] at hk
  exact hk.2

/-- The states of which something holds, given what is looked at with each of them.  This is a fold of the
list, put so that the kernel has few terms to build for a state. -/
def statesWhere {α : Type} (p : α → Bool) : List (α × ParseState) → Nat :=
  @List.rec (α × ParseState) (fun _ => Nat) 0
    fun x _ states => @Bool.rec (fun _ => Nat) states (Nat.lor states (Nat.shiftLeft 1 x.2)) (p x.1)

theorem testBit_statesWhere {α : Type} {p : α → Bool} {xs : List (α × ParseState)} {state : ParseState} :
    (statesWhere p xs).testBit state = true ↔ ∃ x, (x, state) ∈ xs ∧ p x = true := by
  induction xs with
  | nil => simp [statesWhere]
  | cons y ys ih =>
    obtain ⟨y, a⟩ := y
    have hrest : (∃ x, (x, state) ∈ (y, a) :: ys ∧ p x = true)
        ↔ (p y = true ∧ a = state) ∨ ∃ x, (x, state) ∈ ys ∧ p x = true := by
      simp only [List.mem_cons, Prod.mk.injEq, or_and_right, exists_or, and_assoc]
      refine or_congr_left ⟨?_, fun ⟨hp, ha⟩ => ⟨y, rfl, ha.symm, hp⟩⟩
      rintro ⟨x, rfl, rfl, hp⟩
      exact ⟨hp, rfl⟩
    rw [hrest, ← ih]
    change (@Bool.rec (fun _ => Nat) (statesWhere p ys) (statesWhere p ys ||| 1 <<< a) (p y)).testBit
      state = true ↔ _
    cases p y with
    | false => simp
    | true => simp [Nat.testBit_or, Nat.one_shiftLeft, Nat.testBit_two_pow, or_comm]

variable (lang : Language)

/-! ## Deciding it -/

/-- The states in which the paths of a length to a state begin. -/
def basesOf : Nat → ParseState → Nat
  | 0, a => 1 <<< a
  | n + 1, q => (lang.edgesInto q).foldr (fun e states => states ||| seen (basesOf n) e.source) 0

/-- The nodes over which a row goes to a state that meets a condition. -/
def turnsOf (check : ParseState → Bool) : List (Nat × ParseState) → Nat
  | [] => 0
  | g :: gs => bif check g.2 then g.1 ||| turnsOf check gs
    else turnsOf check gs ^^^ (turnsOf check gs &&& g.1)

/-- The nodes over which states go to one that meets a condition. -/
def turns (check : ParseState → Bool) : List (Nat × ParseState) :=
  (lang.parseStates.toList.zipIdx.map fun x => (turnsOf check x.1.gotos, x.2)).filter (·.1 != 0)

/-- The states that go over a node to one that meets a condition. -/
def leading (symbol : Symbol) (check : ParseState → Bool) : Nat :=
  statesWhere (isIn (symbol - lang.tokenCount)) (lang.turns check)

/-- Whether an action of a state leads on. -/
def actionLeadsOn (state : ParseState) : Action → Bool
  | .reduce symbol count _ => lang.tokenCount.ble symbol && symbol.blt Symbol.skipped
      && isWithin (lang.basesOf count state) (lang.leading symbol (· != ParseState.recovering))
  | .shift next _ => next != ParseState.recovering
  | .recover => state == ParseState.recovering
  | .shiftExtra | .accept => true

/-- Decides whether reductions lead on. -/
def isClosing : Bool :=
  lang.parseStates.toList.zipIdx.all fun x =>
    seen (fun state => x.1.entries.all fun e => e.actions.all fun a => lang.actionLeadsOn state a) x.2

variable {lang}

theorem testBit_turnsOf {check : ParseState → Bool} {gs : List (Nat × ParseState)} {s : Nat} :
    (turnsOf check gs).testBit s = true ↔ ∃ g, gs.find? (·.1.testBit s) = some g
      ∧ check g.2 = true := by
  induction gs with
  | nil => simp [turnsOf]
  | cons g gs ih =>
    rw [turnsOf, List.find?_cons]
    cases hcheck : check g.2 <;> cases hbit : g.1.testBit s <;>
      simp [hcheck, hbit, ← ih, Nat.testBit_or, Nat.testBit_xor, Nat.testBit_and]

/-- A state that is among those that go over a node to what meets a condition does. -/
theorem of_testBit_leading {symbol : Symbol} {check : ParseState → Bool} {a : ParseState}
    (hsymbol : lang.tokenCount ≤ symbol ∧ symbol < Symbol.skipped)
    (h : (lang.leading symbol check).testBit a = true) : check (lang.nextState a symbol) = true := by
  obtain ⟨turning, hturn, hbit⟩ := testBit_statesWhere.mp h
  obtain ⟨⟨row, state⟩, hrow, heq⟩ := List.mem_map.mp (List.mem_filter.mp hturn).1
  obtain ⟨rfl, rfl⟩ := Prod.mk.inj heq
  rw [isIn_eq] at hbit
  obtain ⟨g, hfind, hcheck⟩ := testBit_turnsOf.mp hbit
  rw [List.mem_zipIdx_iff_getElem?, Array.getElem?_toList] at hrow
  replace hrow : lang.row state = row := by
    rw [Language.row, Array.getD_eq_getD_getElem?, hrow]
    rfl
  have herror : ¬(symbol = Symbol.error ∨ symbol = Symbol.skipped) := by
    rintro (rfl | rfl)
    · exact absurd hsymbol.2 (by decide)
    · exact absurd hsymbol.2 (Nat.lt_irrefl _)
  rw [nextState, if_neg herror, if_neg (Nat.not_lt.mpr hsymbol.1), hrow, hfind]
  exact hcheck

/-- A path begins in one of the states in which paths of its length do. -/
theorem testBit_basesOf {n : Nat} {a b : ParseState} {ss : List Symbol} (hpath : lang.Path a ss b)
    (hlength : ss.length = n) : (lang.basesOf n b).testBit a = true := by
  induction n generalizing b ss with
  | zero =>
    obtain rfl := List.length_eq_zero_iff.mp hlength
    obtain rfl : a = b := hpath
    simp [basesOf]
  | succ n ih =>
    obtain ⟨front, s, rfl⟩ : ∃ front s, ss = front ++ [s] := by
      have hne : ss ≠ [] := by
        rintro rfl
        simp at hlength
      exact ⟨_, _, (List.dropLast_concat_getLast hne).symm⟩
    obtain ⟨m, hfront, hlast⟩ := path_concat.mp hpath
    obtain ⟨e, he, rfl, -⟩ := hlast.exists_edge
    have hsource := ih hfront (by simpa using hlength)
    rw [basesOf]
    generalize lang.edgesInto b = es at he
    induction es with
    | nil => simp at he
    | cons x xs ih =>
      rw [List.foldr_cons, Nat.testBit_or, Bool.or_eq_true, seen_eq]
      rcases List.mem_cons.mp he with rfl | he
      · exact .inr hsource
      · exact .inl (ih he)

theorem actionLeadsOn_of_mem (h : lang.isClosing = true) {state : ParseState} {token : Symbol}
    {a : Action} (hmem : a ∈ lang.actions state token) : lang.actionLeadsOn state a = true := by
  obtain ⟨-, -, e, he, -, hmem⟩ := mem_actions hmem
  simp only [isClosing, seen_eq, List.all_eq_true] at h
  exact h _ (row_mem_zipIdx he) e he a hmem

theorem closing_of_isClosing (h : lang.isClosing = true) : lang.Closing where
  reduce {a b ss token symbol production} hpath hmem := by
    have haction := actionLeadsOn_of_mem h hmem
    simp only [actionLeadsOn, Bool.and_eq_true, Nat.ble_eq, Nat.blt_eq] at haction
    simpa using of_testBit_leading haction.1
      (testBit_of_isWithin haction.2 (testBit_basesOf hpath rfl))
  shift hmem := by simpa [actionLeadsOn] using actionLeadsOn_of_mem h hmem
  recover hmem := by simpa [actionLeadsOn] using actionLeadsOn_of_mem h hmem

end Language

end SyntaxKit
