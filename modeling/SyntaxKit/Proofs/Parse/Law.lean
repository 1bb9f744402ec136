import Mathlib.Algebra.GroupWithZero.Nat
import SyntaxKit.Proofs.Tree.Summary
import SyntaxKit.Parse.Stack

/-!
# Laws of a stack

What is claimed of a parser is of one kind: whatever is on a stack, between two places of it, obeys
some law.  A `Law` says which places there may be, which subtrees may lie between two of them, which
subtrees a reading may wait with at a position, which parts of an earlier tree may be at hand, and
which complete trees may be kept.  A stack is sound for a law if everything reachable from its
readings obeys it (`Stack.Sound`).

The operations on stacks keep them sound, each under the condition that what it pushes obeys the
law; this is shown once, for all laws.  Not every vertex of a sound stack obeys the law: a reading
that ends pushes the end of the text without regard to it, and so the vertices that do are given as
a set, the live ones.
-/

namespace SyntaxKit

/-- A parse state at a position of the text, with what the errors before it cost. -/
structure Spot where
  state : ParseState
  position : Extent
  cost : Nat

/-- Where a vertex stands. -/
def Vertex.spot (v : Vertex) : Spot := ⟨v.state, v.position, v.errorCost⟩

/-- The place at which every stack begins. -/
def Spot.origin : Spot := ⟨ParseState.initial, Extent.zero, 0⟩

/-- The place reached by pushing a subtree, or the mark that recovery begins, and going to a
state. -/
def Spot.reach (a : Spot) (tree : Option Tree) (state : ParseState) : Spot :=
  match tree with
  | none => ⟨state, a.position, a.cost⟩
  | some t => ⟨state, a.position + t.totalSize, a.cost + t.errorCost⟩

/-- The place reached by pushing subtrees one after the other, each leading to the same state. -/
def Spot.along (a : Spot) (state : ParseState) (ts : List Tree) : Spot :=
  ts.foldl (fun a t => a.reach (some t) state) a

@[simp] theorem Spot.along_nil (a : Spot) (state : ParseState) : a.along state [] = a := rfl

@[simp] theorem Spot.along_cons (a : Spot) (state : ParseState) (t : Tree) (ts : List Tree) :
    a.along state (t :: ts) = (a.reach (some t) state).along state ts := rfl

theorem Spot.position_along (a : Spot) (state : ParseState) (ts : List Tree) :
    (a.along state ts).position = a.position + Tree.totalSizes ts := by
  induction ts generalizing a with
  | nil => simp
  | cons t ts ih => rw [along_cons, ih, Tree.totalSizes_cons, reach, Extent.add_assoc]

theorem Spot.cost_along (a : Spot) (state : ParseState) (ts : List Tree) :
    (a.along state ts).cost = a.cost + (ts.map Tree.errorCost).sum := by
  induction ts generalizing a with
  | nil => simp
  | cons t ts ih => rw [along_cons, ih, List.map_cons, List.sum_cons, reach, Nat.add_assoc]

theorem Spot.state_along {a : Spot} {state : ParseState} (h : a.state = state) (ts : List Tree) :
    (a.along state ts).state = state := by
  induction ts generalizing a with
  | nil => exact h
  | cons t ts ih => exact ih rfl

/-- What may be where during a parse. -/
structure Law where
  /-- A stack may come to this place. -/
  stands : Spot → Prop
  /-- The subtree, or else the mark that recovery begins, may lie between these places. -/
  step : Spot → Option Tree → Spot → Prop
  /-- A reading at this position may wait with this subtree. -/
  waits : Extent → Tree → Prop
  /-- A reading at this place may go on with this subtree. -/
  faces : Spot → Tree → Prop
  /-- A reading that has not ended may stand at this place. -/
  tops : Spot → Prop
  /-- A subtree that was taken over whole may be replaced by its children. -/
  divides : Tree → Prop
  /-- The subtree may be a part of the earlier tree that is at hand, beginning at this offset. -/
  spare : Nat → Tree → Prop
  /-- The tree may be kept as a complete one. -/
  whole : Tree → Prop
  stands_of_step : ∀ {a t b}, step a t b → stands b
  /-- Only the state of a place, its offset and its cost matter. -/
  step_congr : ∀ {a t b b'}, step a t b → stands b' → b'.state = b.state →
    b'.position.bytes = b.position.bytes → b'.cost = b.cost → step a t b'
  bytes_of_step : ∀ {a t b}, step a t b →
    b.position.bytes = a.position.bytes + (t.map fun t => t.totalSize.bytes).getD 0
  cost_of_step : ∀ {a t b}, step a t b → b.cost = a.cost + (t.map Tree.errorCost).getD 0
  waits_congr : ∀ {p t a}, waits p t → stands a → a.position.bytes = p.bytes →
    waits a.position t
  /-- What is at hand below a node is as long as the node. -/
  spare_children : ∀ {offset t}, spare offset t → t.children ≠ [] →
    (Tree.totalSizes t.children).bytes = t.totalSize.bytes ∧ Tree.EachAt spare offset t.children

namespace Law

/-- Where nothing is at hand, nothing is so below it. -/
theorem none_spare {offset : Nat} {t : Tree} (h : False) (_ : t.children ≠ []) :
    (Tree.totalSizes t.children).bytes = t.totalSize.bytes
      ∧ Tree.EachAt (fun _ _ => False) offset t.children :=
  h.elim

variable (L : Law)

/-- Some subtrees lie on a stack between two places; `n` counts them, extras apart, and the marks
between them. -/
inductive Chain : Spot → List Tree → Nat → Spot → Prop
  | nil (a : Spot) : Chain a [] 0 a
  | mark {a m b : Spot} {ts : List Tree} {n : Nat} (first : L.step a none m)
      (rest : Chain m ts n b) : Chain a ts (n + 1) b
  | tree {a m b : Spot} {t : Tree} {ts : List Tree} {n : Nat} (first : L.step a (some t) m)
      (rest : Chain m ts n b) : Chain a (t :: ts) (if t.isExtra then n else n + 1) b

/-- Subtrees that may be pushed one after the other at a place, each leading to the same state. -/
def Row (state : ParseState) : Spot → List Tree → Prop
  | _, [] => True
  | a, t :: ts => L.step a (some t) (a.reach (some t) state) ∧ Row state (a.reach (some t) state) ts

variable {L}

theorem Chain.bytes {a b : Spot} {ts : List Tree} {n : Nat} (h : L.Chain a ts n b) :
    b.position.bytes = a.position.bytes + (Tree.totalSizes ts).bytes := by
  induction h with
  | nil a => simp
  | mark first rest ih =>
    have hfirst := L.bytes_of_step first
    simp at hfirst
    omega
  | tree first rest ih =>
    have hfirst := L.bytes_of_step first
    simp at hfirst ⊢
    omega

theorem Chain.cost {a b : Spot} {ts : List Tree} {n : Nat} (h : L.Chain a ts n b) :
    b.cost = a.cost + (ts.map Tree.errorCost).sum := by
  induction h with
  | nil a => simp
  | mark first rest ih =>
    have hfirst := L.cost_of_step first
    simp at hfirst
    omega
  | tree first rest ih =>
    have hfirst := L.cost_of_step first
    simp at hfirst ⊢
    omega

theorem Chain.append {a m b : Spot} {ts us : List Tree} {n k : Nat} (h : L.Chain a ts n m)
    (h' : L.Chain m us k b) : L.Chain a (ts ++ us) (n + k) b := by
  induction h with
  | nil a => simpa using h'
  | mark first rest ih =>
    have := Chain.mark first (ih h')
    rwa [Nat.add_right_comm]
  | @tree a m b t ts n first rest ih =>
    have hchain := Chain.tree first (ih h')
    rw [List.cons_append]
    split at hchain
    · next hextra => simpa [hextra] using hchain
    · next hextra => simpa [hextra, Nat.add_right_comm] using hchain

theorem Chain.split {a b : Spot} {ts us : List Tree} {n : Nat} (h : L.Chain a (ts ++ us) n b) :
    ∃ m k l, L.Chain a ts k m ∧ L.Chain m us l b ∧ n = k + l := by
  generalize hts : ts ++ us = all at h
  induction h generalizing ts with
  | nil a =>
    obtain ⟨rfl, rfl⟩ := List.append_eq_nil_iff.mp hts
    exact ⟨a, 0, 0, .nil a, .nil a, rfl⟩
  | mark first rest ih =>
    obtain ⟨m, k, l, hleft, hright, rfl⟩ := ih hts
    exact ⟨m, k + 1, l, .mark first hleft, hright, by omega⟩
  | @tree a m b t rest' n first rest ih =>
    cases ts with
    | nil =>
      simp only [List.nil_append] at hts
      subst hts
      exact ⟨a, 0, _, .nil a, Chain.tree first rest, by simp⟩
    | cons t' ts =>
      simp only [List.cons_append, List.cons.injEq] at hts
      obtain ⟨rfl, hts⟩ := hts
      obtain ⟨m', k, l, hleft, hright, rfl⟩ := ih hts
      refine ⟨m', _, l, .tree first hleft, hright, ?_⟩
      split <;> omega

theorem Chain.step_of_mem {a b : Spot} {ts : List Tree} {n : Nat} (h : L.Chain a ts n b)
    {t : Tree} (ht : t ∈ ts) : ∃ a b, L.step a (some t) b := by
  induction h with
  | nil a => simp at ht
  | mark first rest ih => exact ih ht
  | tree first rest ih =>
    rcases List.mem_cons.mp ht with rfl | ht
    · exact ⟨_, _, first⟩
    · exact ih ht

end Law

/-! ## Sound stacks -/

namespace Stack

variable (L : Law) (live : Nat → Prop)

/-- A reading that has not ended stands on a live vertex, and what it waits with may be there. -/
def HeadSound (s : Stack) (h : Head) : Prop :=
  match h.status with
  | .active => live h.top
  | .paused t => live h.top ∧ L.waits (s.vertex h.top).position t
  | .halted => True

/-- Everything reachable from the readings of a stack obeys a law.  The readings of which this may
not be so are given as a set. -/
structure SoundBut (but : Nat → Prop) (s : Stack) : Prop where
  bound : ∀ i, live i → i < s.vertices.size
  origin : live 0
  stands : ∀ i, live i → L.stands (s.vertex i).spot
  links : ∀ i, live i → ∀ l ∈ (s.vertex i).links,
    live l.below ∧ L.step (s.vertex l.below).spot l.tree (s.vertex i).spot
      ∧ ∀ t, l.pending = true → l.tree = some t → L.divides t
  bottom : ∀ i, live i → (s.vertex i).links = [] → i = 0 ∧ (s.vertex i).spot = Spot.origin
  heads : ∀ v, ¬but v → HeadSound L live s (s.head v)

/-- Everything reachable from the readings of a stack obeys a law. -/
abbrev Sound (s : Stack) : Prop := SoundBut L live (fun _ => False) s

variable {L live}

/-- The place of a reading. -/
def spot (s : Stack) (v : Nat) : Spot := (s.top v).spot

@[simp] theorem state_spot (s : Stack) (v : Nat) : (s.spot v).state = s.state v := rfl

@[simp] theorem position_spot (s : Stack) (v : Nat) : (s.spot v).position = s.position v := rfl

@[simp] theorem cost_spot (s : Stack) (v : Nat) : (s.spot v).cost = (s.top v).errorCost := rfl

/-- A reading that has not ended stands on a live vertex. -/
theorem HeadSound.top_live {s : Stack} {h : Head} (hs : HeadSound L live s h)
    (hstatus : h.status ≠ .halted) : live h.top := by
  rw [HeadSound] at hs
  split at hs
  · exact hs
  · exact hs.1
  · next h => exact absurd h hstatus

/-! ### Readings, one by one -/

theorem head_eq (s : Stack) (v : Nat) : s.head v = (s.heads[v]?).getD default := by
  rw [head, Array.getD_eq_getD_getElem?]

theorem head_of_le {s : Stack} {v : Nat} (h : s.count ≤ v) : s.head v = default := by
  rw [head_eq, Array.getElem?_eq_none h]
  rfl

theorem active_of_le {s : Stack} {w : Nat} (h : s.count ≤ w) : (s.head w).status = .active := by
  rw [head_of_le h]
  rfl

theorem head_setHead (s : Stack) (v w : Nat) (h : Head) :
    (s.setHead v h).head w = if w = v ∧ v < s.count then h else s.head w := by
  rw [head_eq, head_eq, setHead]
  simp only [Array.getElem?_setIfInBounds, count]
  by_cases hw : v = w
  · subst hw
    by_cases hv : v < s.heads.size
    · simp [hv]
    · simp [hv]
  · simp [hw, Ne.symm hw]

theorem head_remove (s : Stack) (v w : Nat) :
    (s.remove v).head w = if w < v then s.head w else s.head (w + 1) := by
  rw [head_eq, head_eq, head_eq, remove]
  by_cases hv : v < s.heads.size
  · simp only [Array.eraseIdxIfInBounds, hv, dif_pos]
    rw [Array.getElem?_eraseIdx]
    split <;> rfl
  · simp only [Array.eraseIdxIfInBounds, hv, dif_neg, not_false_eq_true]
    split
    · rfl
    · rw [Array.getElem?_eq_none (by omega), Array.getElem?_eq_none (by omega)]

theorem count_remove (s : Stack) (v : Nat) :
    (s.remove v).count = if v < s.count then s.count - 1 else s.count := by
  by_cases hv : v < s.heads.size
  · simp [count, remove, Array.eraseIdxIfInBounds, hv]
  · simp [count, remove, Array.eraseIdxIfInBounds, hv]

theorem head_addHead (s : Stack) (w : Nat) (h : Head) :
    (s.addHead h).head w = if w = s.count then h else s.head w := by
  rw [head_eq, head_eq, addHead]
  simp only [Array.getElem?_push, count]
  by_cases hw : w = s.heads.size
  · simp [hw]
  · simp [hw]

@[simp] theorem count_addHead (s : Stack) (h : Head) : (s.addHead h).count = s.count + 1 := by
  simp [count, addHead]

@[simp] theorem count_setHead (s : Stack) (v : Nat) (h : Head) :
    (s.setHead v h).count = s.count := by
  simp [count, setHead]

@[simp] theorem vertex_setHead (s : Stack) (v i : Nat) (h : Head) :
    (s.setHead v h).vertex i = s.vertex i := rfl

@[simp] theorem vertex_remove (s : Stack) (v i : Nat) : (s.remove v).vertex i = s.vertex i := rfl

@[simp] theorem vertex_addHead (s : Stack) (i : Nat) (h : Head) :
    (s.addHead h).vertex i = s.vertex i := rfl

/-- Only the readings have changed, and they are sound. -/
theorem SoundBut.of_vertices {but but' : Nat → Prop} {s s' : Stack} (hs : SoundBut L live but s)
    (hvertices : s'.vertices = s.vertices)
    (hheads : ∀ v, ¬but' v → HeadSound L live s (s'.head v)) : SoundBut L live but' s' := by
  have hvertex : ∀ i, s'.vertex i = s.vertex i := fun i => by rw [vertex, vertex, hvertices]
  refine {
    bound := fun i hi => by
      rw [hvertices]
      exact hs.bound i hi
    origin := hs.origin
    stands := fun i hi => by
      rw [hvertex]
      exact hs.stands i hi
    links := fun i hi l hl => by
      rw [hvertex] at hl ⊢
      rw [hvertex]
      exact hs.links i hi l hl
    bottom := fun i hi => by
      rw [hvertex]
      exact hs.bottom i hi
    heads := fun v hv => ?_ }
  have hhead := hheads v hv
  rw [HeadSound] at hhead ⊢
  split at hhead <;> simp_all

end Stack

end SyntaxKit
