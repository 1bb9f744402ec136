import Mathlib.Tactic.Common
import SyntaxKit.Query.Derivation

/-!
# The children of a node in a parse automaton

The parse automaton builds a node from its children by reading them one after the other, from a state
in which the node may begin to one in which it is complete (`Language.Builds`).  The derivation of a
language knows all of these ways: a node that is built from some state begins there
(`Derivation.mem_beginningsOf`), and all places on the way are spots of its symbol
(`Language.Builds.mem_spots`).
-/

namespace SyntaxKit

open Query

/-! ## Tables of lists -/

section Tables

variable {α β : Type} {table : Array (List α)} {x : α} {i : Nat}

theorem getD_modify (table : Array (List α)) (f : List α → List α) (i j : Nat) :
    (table.modify j f).getD i [] = if j = i ∧ i < table.size then f (table.getD i [])
      else table.getD i [] := by
  simp only [Array.getD_eq_getD_getElem?, Array.getElem?_modify]
  by_cases hij : j = i
  · by_cases hi : i < table.size
    · simp [hij, hi]
    · simp [hij, hi]
  · simp [hij]

/-- What is in a list of a table stays there if lists are only added to. -/
theorem mem_foldl_modify {g : β → Nat} {f : β → List α → List α} (hf : ∀ b l, x ∈ l → x ∈ f b l)
    (bs : List β) : ∀ {table : Array (List α)}, x ∈ table.getD i [] →
      x ∈ (bs.foldl (fun table b => table.modify (g b) (f b)) table).getD i [] := by
  induction bs with
  | nil => exact fun h => h
  | cons b bs ih =>
    intro table h
    refine ih ?_
    rw [getD_modify]
    split
    · exact hf b _ h
    · exact h

/-- What is added to a list of a table is there in the end. -/
theorem mem_foldl_modify_self {g : β → Nat} {f : β → List α → List α}
    (hf : ∀ b l, x ∈ l → x ∈ f b l) {b : β} (hx : ∀ l, x ∈ f b l) (hg : g b = i) {bs : List β}
    (hb : b ∈ bs) : ∀ {table : Array (List α)}, i < table.size →
      x ∈ (bs.foldl (fun table b => table.modify (g b) (f b)) table).getD i [] := by
  induction bs with
  | nil => simp at hb
  | cons b' bs ih =>
    intro table hi
    rcases List.mem_cons.mp hb with rfl | hb
    · refine mem_foldl_modify hf bs ?_
      rw [getD_modify, if_pos ⟨hg, hi⟩]
      exact hx _
    · exact ih hb (by simpa using hi)

theorem size_foldl_modify (g : β → Nat) (f : β → List α → List α) (bs : List β) :
    ∀ table : Array (List α),
      (bs.foldl (fun table b => table.modify (g b) (f b)) table).size = table.size := by
  induction bs with
  | nil => exact fun _ => rfl
  | cons b bs ih =>
    intro table
    rw [List.foldl_cons, ih, Array.size_modify]

theorem getD_map_range (f : Nat → List α) {n : Nat} (h : i < n) :
    ((List.range n).map f).toArray.getD i [] = f i := by
  simp [Array.getD_eq_getD_getElem?, h]

end Tables

namespace Query.Derivation

/-! ## Recording states -/

section Record

variable {table : Array (List Nat)} {s : Nat} {t : Nat}

theorem mem_recordAll {s' : Nat} (h : s' ∈ table.getD t []) (targets : List Nat) :
    s' ∈ (recordAll s table targets).getD t [] := by
  refine mem_foldl_modify (fun _ l hl => ?_) targets h
  split
  · exact hl
  · exact List.mem_cons_of_mem _ hl

theorem mem_recordAll_self {targets : List Nat} (ht : t ∈ targets) (hlt : t < table.size) :
    s ∈ (recordAll s table targets).getD t [] := by
  refine mem_foldl_modify_self (b := t) (fun _ l hl => ?_) (fun l => ?_) rfl ht hlt
  · split
    · exact hl
    · exact List.mem_cons_of_mem _ hl
  · split
    · next hhead => exact List.mem_of_mem_head? hhead
    · exact List.mem_cons_self ..

theorem size_recordAll (s : Nat) (table : Array (List Nat)) (targets : List Nat) :
    (recordAll s table targets).size = table.size := size_foldl_modify _ _ targets table

/-- When states have been recorded at their targets, each of them is found at each of its targets. -/
theorem mem_recordEach {f : Nat → List Nat} {states : List Nat} (hs : s ∈ states)
    (ht : t ∈ f s) : ∀ {table : Array (List Nat)}, t < table.size →
      s ∈ (states.foldl (fun table s => recordAll s table (f s)) table).getD t [] := by
  have hkeep : ∀ (states : List Nat) {table : Array (List Nat)}, s ∈ table.getD t [] →
      s ∈ (states.foldl (fun table s => recordAll s table (f s)) table).getD t [] := by
    intro states
    induction states with
    | nil => exact fun h => h
    | cons s' states ih => exact fun h => ih (mem_recordAll h _)
  induction states with
  | nil => simp at hs
  | cons s' states ih =>
    intro table hlt
    rcases List.mem_cons.mp hs with rfl | hs
    · exact hkeep states (mem_recordAll_self ht hlt)
    · exact ih hs (by rwa [size_recordAll])

end Record

/-! ## The derivation of a language -/

variable {lang : Language}

/-- A parse state of the tables, other than that of recovery. -/
def IsState (lang : Language) (state : ParseState) : Prop :=
  0 < state ∧ state < lang.parseStates.size

theorem IsState.mem_states {state : ParseState} (h : IsState lang state) :
    state ∈ (List.range lang.parseStates.size).drop 1 := by
  obtain ⟨hpos, hlt⟩ := h
  have hsum : state - 1 + 1 = state := Nat.sub_add_cancel hpos
  rw [List.mem_drop_iff_getElem]
  exact ⟨state - 1, by simpa [hsum] using hlt, by simp [Nat.add_comm 1, hsum]⟩

theorem moves_getD {state : ParseState} (h : IsState lang state) :
    (ofLanguage lang).moves.getD state [] = movesOf lang state := getD_map_range _ h.2

theorem completions_getD {state : ParseState} (h : IsState lang state) :
    (ofLanguage lang).completions.getD state [] = completionsOf (lang.row state) := by
  have hget := getD_map_range (fun s => if s = 0 then [] else completionsOf (lang.row s)) h.2
  rwa [if_neg (Nat.ne_of_gt h.1)] at hget

theorem size_completions (lang : Language) :
    (ofLanguage lang).completions.size = lang.parseStates.size := by
  simp [ofLanguage]

theorem mem_predecessors {state next : ParseState} (hstate : IsState lang state)
    (hnext : IsState lang next) (h : next ∈ successorsOf (lang.row state) state) :
    state ∈ (ofLanguage lang).predecessors.getD next [] :=
  mem_recordEach (f := fun s => successorsOf (lang.row s) s) hstate.mem_states h
    (by simpa using hnext.2)

/-- A node may begin in a state that leads somewhere behind it. -/
theorem mem_beginningsOf {state : ParseState} (h : IsState lang state)
    (hcore : (lang.row state).core = state) {symbol : Symbol} (hsymbol : symbol < lang.symbols.size)
    {set : Nat} {next : ParseState} (hgoto : (set, next) ∈ (lang.row state).gotos)
    (htoken : lang.tokenCount ≤ symbol) (hbit : set.testBit (symbol - lang.tokenCount) = true) :
    state ∈ (ofLanguage lang).beginningsOf symbol := by
  have hfold : (ofLanguage lang).beginnings
      = ((List.range lang.parseStates.size).drop 1).foldl (fun table s => recordAll s table
          (if (lang.row s).core = s then (lang.row s).gotos.flatMap fun g =>
            (bits g.1 (lang.symbols.size - lang.tokenCount)).map (lang.tokenCount + ·) else []))
        (Array.replicate lang.symbols.size []) := by
    simp only [ofLanguage]
    congr 1
    funext table s
    split
    · rfl
    · rfl
  rw [beginningsOf, hfold, List.mem_reverse]
  refine mem_recordEach (f := _) h.mem_states ?_ (by simpa using hsymbol)
  rw [if_pos hcore, List.mem_flatMap]
  refine ⟨_, hgoto, List.mem_map.mpr ⟨symbol - lang.tokenCount, ?_, Nat.add_sub_cancel' htoken⟩⟩
  rw [bits, List.mem_filter, List.mem_range]
  exact ⟨Nat.sub_lt_sub_right htoken hsymbol, hbit⟩

/-! ## Moves -/

theorem mem_bits {set bound i : Nat} : i ∈ bits set bound ↔ i < bound ∧ set.testBit i = true := by
  rw [bits, List.mem_filter, List.mem_range]

/-- A move that leaves a state leads to one of its successors. -/
theorem mem_successorsOf {state next : ParseState} {symbol : Symbol}
    (h : (symbol, next) ∈ movesOf lang state) (hleaves : next ≠ state) :
    next ∈ successorsOf (lang.row state) state := by
  rw [movesOf] at h
  rw [successorsOf, List.mem_append]
  rcases List.mem_append.mp h with h | h
  · obtain ⟨e, he, hmem⟩ := List.mem_flatMap.mp h
    cases htarget : shiftTarget? state e.actions with
    | none => simp [htarget] at hmem
    | some target =>
      rw [htarget] at hmem
      obtain ⟨token, -, heq⟩ := List.mem_map.mp hmem
      obtain rfl : target = next := congrArg Prod.snd heq
      rw [shiftTarget?] at htarget
      split at htarget
      · next target' repetition hlast =>
        obtain rfl := Option.some.inj htarget
        refine .inl (List.mem_flatMap.mpr ⟨e, he, List.mem_filterMap.mpr ⟨.shift target' repetition, ?_, rfl⟩⟩)
        exact List.mem_of_getLast? hlast
      · exact absurd (Option.some.inj htarget).symm hleaves
      · simp at htarget
  · obtain ⟨⟨set, target⟩, hgoto, hmem⟩ := List.mem_flatMap.mp h
    obtain ⟨i, -, heq⟩ := List.mem_map.mp hmem
    obtain rfl : target = next := congrArg Prod.snd heq
    refine .inr (List.mem_filter.mpr ⟨List.mem_map_of_mem hgoto, ?_⟩)
    simpa using hleaves

/-! ## Spots -/

variable {d : Derivation}

theorem mem_spotsBefore {spots : List (ParseState × Spot)} {state before : ParseState} {spot : Spot}
    (h : (state, spot) ∈ spots) (hchildren : 1 < spot.children)
    (hbefore : before ∈ d.predecessors.getD state []) :
    (before, ⟨spot.production, spot.children - 1, false⟩) ∈ d.spotsBefore spots := by
  rw [spotsBefore, List.mem_eraseDups, List.mem_flatMap]
  refine ⟨_, h, ?_⟩
  simp only [if_neg (Nat.not_le_of_gt hchildren)]
  exact List.mem_map_of_mem hbefore

theorem children_spotsBefore {spots : List (ParseState × Spot)} {n : Nat}
    (h : ∀ x ∈ spots, x.2.children = n + 1) : ∀ x ∈ d.spotsBefore spots, x.2.children = n := by
  intro x hx
  rw [spotsBefore, List.mem_eraseDups, List.mem_flatMap] at hx
  obtain ⟨y, hy, hx⟩ := hx
  obtain ⟨state, spot⟩ := y
  simp only at hx
  split at hx
  · simp at hx
  · obtain ⟨before, -, rfl⟩ := List.mem_map.mp hx
    have hchildren : spot.children = n + 1 := h _ hy
    simp [hchildren]

/-- All complete spots are found, and with a spot behind more than one child also those before its last
child. -/
theorem closeSpots_spec {ends : List (ParseState × Spot)} (n : Nat) :
    ∀ {within : List (ParseState × Spot)}, (∀ x ∈ within, x.2.children = n) →
      (0 < n → ∀ x ∈ within, x ∈ d.closeSpots ends n within)
        ∧ (∀ x ∈ ends, x.2.children ≤ n → x ∈ d.closeSpots ends n within)
        ∧ ∀ state spot, (state, spot) ∈ d.closeSpots ends n within → 1 < spot.children →
          ∀ before ∈ d.predecessors.getD state [],
            (before, ⟨spot.production, spot.children - 1, false⟩) ∈ d.closeSpots ends n within := by
  induction n with
  | zero =>
    intro within _
    refine ⟨fun h => absurd h (Nat.lt_irrefl 0), fun x hx hle => ?_, fun state spot h hlt => ?_⟩
    · exact List.mem_filter.mpr ⟨hx, by simpa using hle⟩
    · have hzero := (List.mem_filter.mp h).2
      simp only [beq_iff_eq] at hzero
      omega
  | succ n ih =>
    intro within hwithin
    have hhere : ∀ x ∈ within ++ ends.filter (·.2.children == n + 1), x.2.children = n + 1 := by
      intro x hx
      rcases List.mem_append.mp hx with hx | hx
      · exact hwithin x hx
      · simpa using (List.mem_filter.mp hx).2
    obtain ⟨hfirst, hends, hback⟩ := ih (children_spotsBefore hhere)
    rw [closeSpots]
    refine ⟨fun _ x hx => ?_, fun x hx hle => ?_, fun state spot h hlt before hbefore => ?_⟩
    · exact List.mem_append_left _ (List.mem_append_left _ hx)
    · by_cases heq : x.2.children = n + 1
      · refine List.mem_append_left _ (List.mem_append_right _ (List.mem_filter.mpr ⟨hx, ?_⟩))
        simpa using heq
      · exact List.mem_append_right _ (hends x hx (by omega))
    · refine List.mem_append_right _ ?_
      rcases List.mem_append.mp h with h | h
      · have hchildren : spot.children = n + 1 := hhere _ h
        exact hfirst (by omega) _ (mem_spotsBefore h hlt hbefore)
      · exact hback state spot h hlt before hbefore

theorem mem_endsOf {state : ParseState} (h : IsState lang state) {symbol : Symbol} {spot : Spot}
    (hfind : (completionsOf (lang.row state)).find? (·.1 == symbol) = some (symbol, spot)) :
    (state, spot) ∈ (ofLanguage lang).endsOf symbol := by
  rw [endsOf, List.mem_filterMap]
  refine ⟨state, by rw [List.mem_range, size_completions]; exact h.2, ?_⟩
  rw [completions_getD h, hfind]
  rfl

theorem le_foldl_max {xs : List Nat} {x : Nat} (h : x ∈ xs) : ∀ first, x ≤ xs.foldl max first := by
  have hkeep : ∀ (xs : List Nat) (first : Nat), first ≤ xs.foldl max first := by
    intro xs
    induction xs with
    | nil => exact fun first => Nat.le_refl first
    | cons y xs ih => exact fun first => Nat.le_trans (Nat.le_max_left first y) (ih _)
  induction xs with
  | nil => simp at h
  | cons y xs ih =>
    intro first
    rcases List.mem_cons.mp h with rfl | h
    · exact Nat.le_trans (Nat.le_max_right first x) (hkeep xs _)
    · exact ih h _

end Query.Derivation

/-! ## Ways of building a node -/

/-- Behind as many children of a node with a production, the remaining children lead from a state to
one in which the node is complete. -/
inductive Language.Builds (lang : Language) (symbol : Symbol) (production : Nat) :
    Nat → ParseState → List Symbol → Prop
  | complete {count : Nat} {state : ParseState} (isState : Derivation.IsState lang state)
    (completes : (Derivation.completionsOf (lang.row state)).find? (·.1 == symbol)
      = some (symbol, ⟨production, count, true⟩)) : Builds lang symbol production count state []
  | child {count : Nat} {state next : ParseState} {first : Symbol} {rest : List Symbol}
    (isState : Derivation.IsState lang state) (move : (first, next) ∈ Derivation.movesOf lang state)
    (leaves : next ≠ state) (others : Builds lang symbol production (count + 1) next rest) :
    Builds lang symbol production count state (first :: rest)

namespace Language.Builds

open Query.Derivation

variable {lang : Language} {symbol : Symbol} {production count : Nat} {state : ParseState}
  {rest : List Symbol}

theorem isState (h : lang.Builds symbol production count state rest) : IsState lang state := by
  cases h with
  | complete isState _ => exact isState
  | child isState _ _ _ => exact isState

/-- A node that is built has complete spots. -/
theorem exists_end (h : lang.Builds symbol production count state rest) :
    ∃ x ∈ (ofLanguage lang).endsOf symbol, x.2.children = count + rest.length := by
  induction h with
  | complete isState completes => exact ⟨_, mem_endsOf isState completes, rfl⟩
  | child isState move leaves others ih =>
    obtain ⟨x, hx, hchildren⟩ := ih
    exact ⟨x, hx, by rw [hchildren, List.length_cons]; omega⟩

/-- The spots of a symbol that is built. -/
def spots (lang : Language) (symbol : Symbol) : List (ParseState × Spot) :=
  let ends := (ofLanguage lang).endsOf symbol
  (ofLanguage lang).closeSpots ends ((ends.map (·.2.children)).foldl max 0) []

/-- Every place on the way of building a node is a spot of its symbol. -/
theorem mem_closed (h : lang.Builds symbol production count state rest) (hcount : 0 < count) :
    (state, ⟨production, count, rest.isEmpty⟩) ∈ spots lang symbol := by
  obtain ⟨-, hends, hback⟩ := @closeSpots_spec (ofLanguage lang)
    ((ofLanguage lang).endsOf symbol)
    ((((ofLanguage lang).endsOf symbol).map (·.2.children)).foldl max 0) [] (by simp)
  induction h with
  | @complete count state isState completes =>
    have hend := mem_endsOf isState completes
    have hcounts : count ∈ ((ofLanguage lang).endsOf symbol).map (·.2.children) :=
      List.mem_map.mpr ⟨_, hend, rfl⟩
    exact hends _ hend (le_foldl_max hcounts 0)
  | @child count state next first rest isState move leaves others ih =>
    exact hback next _ (ih (Nat.succ_pos _)) (Nat.succ_lt_succ hcount) state
      (mem_predecessors isState others.isState (mem_successorsOf move leaves))

/-- **The table of a symbol holds every place on the way of building one of its nodes.** -/
theorem mem_spots (h : lang.Builds symbol production count state rest) :
    ∃ table, (ofLanguage lang).spots? symbol = some table
      ∧ ∀ {production' count' state' rest'}, lang.Builds symbol production' count' state' rest' →
        0 < count' → ⟨production', count', rest'.isEmpty⟩ ∈ table.getD state' [] := by
  obtain ⟨x, hx, -⟩ := h.exists_end
  have hsome : ((ofLanguage lang).endsOf symbol).isEmpty = false := by
    rw [List.isEmpty_eq_false_iff]
    exact List.ne_nil_of_mem hx
  refine ⟨_, by rw [spots?, hsome]; rfl, fun {production' count' state' rest'} h' hcount => ?_⟩
  refine mem_foldl_modify_self (g := fun b : ParseState × Spot => b.1)
    (f := fun b l => b.2 :: l) (fun b l hl => List.mem_cons_of_mem _ hl)
    (fun l => List.mem_cons_self ..) rfl (h'.mem_closed hcount) ?_
  simpa [size_completions] using h'.isState.2

end Language.Builds

end SyntaxKit
