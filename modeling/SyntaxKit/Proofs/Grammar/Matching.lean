import Mathlib.Data.List.Forall2
import Mathlib.Data.Nat.Bitwise
import SyntaxKit.Language.Basic
import SyntaxKit.Proofs.Grammar.Word

/-!
# Matching sets of letters against rules

The tables of a parser know the repetitions of a grammar as lists, nodes of their own that stand for
one or more times of something (`Listed`).  Inside of such a parser the children of a node are a
word in which lists and hidden nodes stand as they are (`Listed.inner`).

Many symbols lead from one state of the tables to another, and what is to be known of one of them is
to be known of all.  So the letters of a trace are sets of symbols, as numbers whose bits are set,
and a trace matches a rule only if all choices from its sets are words of the rule
(`word_of_mem_rests`).
-/

namespace SyntaxKit.Grammar

/-- A grammar with the names and contents of the lists that stand for its repetitions. -/
structure Listed extends Grammar where
  lists : List (String × Rule)

namespace Listed

variable (g : Listed)

/-- What a list of the kind is a repetition of. -/
def list? : Kind → Option Rule
  | .rule name => g.lists.lookup name
  | .literal _ | .separator => none

/-- The rules as the nodes of a parser show them: hidden nodes and lists stand as they are. -/
def inner : Reading where
  keeps k := (g.list? k).isNone
  expand?
    | .rule name => g.hidden.lookup name
    | .literal _ | .separator => none
  list? := g.list?

/-- The rule that the children of a node of the kind follow. -/
def meaning? (k : Kind) : Option Rule :=
  match g.list? k with
  | some r => some (.many r)
  | none => g.rule? k

end Listed

section Matching

/-- A sequence of sets of symbols, each with the field that it stands under. -/
abbrev Trace := List (Nat × Option String)

variable (g : Listed) (symbolsOf : Kind → Nat)

/-- The symbols that are words of a rule by themselves, given those that single kinds stand for. -/
def singlesBy (accepted : Kind → Nat) : Rule → Nat
  | .item k => accepted k
  | .choice r s => singlesBy accepted r ||| singlesBy accepted s
  | .blank | .seq .. | .many _ | .field .. => 0

/-- The symbols that may stand where a rule has a kind: its own, and those that a hidden rule has by
themselves, down to a depth. -/
def accepted : Nat → Kind → Nat
  | 0, _ => 0
  | n + 1, k =>
    (if g.inner.keeps k then symbolsOf k else 0) ||| match g.inner.expand? k with
      | some r => singlesBy (accepted n) r
      | none => 0

/-- The symbols that are words of a rule by themselves. -/
def singles (r : Rule) : Nat := singlesBy (accepted g symbolsOf 2) r

/-- The symbols that are words of a repetition by themselves. -/
def repeats (r : Rule) : Nat :=
  (g.lists.filter fun l => g.list? (.rule l.1) = some r).foldr
    (fun l m => symbolsOf (.rule l.1) ||| m) (singles g symbolsOf r)

/-- What follows if the first set is within the given one and stands under the field. -/
def first (set : Nat) (f : Option String) : Trace → List Trace
  | [] => []
  | (m, f') :: rest => if m &&& set = m ∧ f' = f then [rest] else []

/-- What may be left of a trace behind a match of a rule. -/
def rests : Rule → Option String → Trace → List Trace
  | .blank, _, w => [w]
  | .item k, f, w => first (accepted g symbolsOf 2 k) f w
  | .seq r s, f, w => (rests r f w).flatMap (rests s f)
  | .choice r s, f, w =>
    first (singles g symbolsOf (.choice r s)) f w ++ (rests r f w ++ rests s f w)
  | .many r, f, w =>
    let once := first (repeats g symbolsOf r) f w ++ rests r f w
    once ++ once.flatMap (first (repeats g symbolsOf r) f)
  | .field name r, _, w => rests r (some name) w

variable {g symbolsOf} {kindOf : Symbol → Kind}

/-- Some letters are chosen from the sets of a trace. -/
def Chosen (kindOf : Symbol → Kind) (w : Trace) (ls : List Letter) : Prop :=
  List.Forall₂ (fun x l => ∃ s, x.1.testBit s = true ∧ l = ⟨kindOf s, x.2⟩) w ls

theorem Chosen.split {w w' : Trace} {ls : List Letter} (h : Chosen kindOf (w ++ w') ls) :
    ∃ us us', ls = us ++ us' ∧ Chosen kindOf w us ∧ Chosen kindOf w' us' := by
  induction w generalizing ls with
  | nil => exact ⟨[], ls, rfl, .nil, h⟩
  | cons x w ih =>
    cases h with
    | cons hx hrest =>
      obtain ⟨us, us', rfl, hus, hus'⟩ := ih hrest
      exact ⟨_ :: us, us', rfl, .cons hx hus, hus'⟩

theorem word_of_testBit_singlesBy {accepted : Kind → Nat} {r : Rule} {s : Symbol}
    (f : Option String) (h : (singlesBy accepted r).testBit s = true)
    (haccepted : ∀ k, (accepted k).testBit s = true →
      Word g.inner f (.item k) [⟨kindOf s, f⟩]) : Word g.inner f r [⟨kindOf s, f⟩] := by
  induction r with
  | item k => exact haccepted k h
  | choice r r' ih ih' =>
    rw [singlesBy, Nat.testBit_or, Bool.or_eq_true] at h
    exact h.elim (fun h => .left r' (ih h)) fun h => .right r (ih' h)
  | blank | seq | many | field => simp [singlesBy] at h

/-- A set all of whose symbols are words of a rule may stand in its place. -/
theorem word_of_mem_first {set : Nat} {f : Option String} {r : Rule} {w rest : Trace}
    (hset : ∀ s, set.testBit s = true → Word g.inner f r [⟨kindOf s, f⟩])
    (h : rest ∈ first set f w) :
    ∃ used, w = used ++ rest ∧ ∀ ls, Chosen kindOf used ls → Word g.inner f r ls := by
  cases w with
  | nil => simp [first] at h
  | cons x w =>
    obtain ⟨m, f'⟩ := x
    rw [first] at h
    split at h
    · next hfirst =>
      obtain ⟨hsub, rfl⟩ := hfirst
      obtain rfl : rest = w := by simpa using h
      refine ⟨[(m, f')], rfl, fun ls hls => ?_⟩
      cases hls with
      | cons hl hnil =>
        cases hnil
        obtain ⟨s, hs, rfl⟩ := hl
        refine hset s ?_
        rw [← hsub, Nat.testBit_and, Bool.and_eq_true] at hs
        exact hs.2
    · simp at h

variable (hsymbols : ∀ k s, (symbolsOf k).testBit s = true → kindOf s = k)

include hsymbols

theorem word_of_testBit_accepted {n : Nat} {k : Kind} {s : Symbol} (f : Option String)
    (h : (accepted g symbolsOf n k).testBit s = true) :
    Word g.inner f (.item k) [⟨kindOf s, f⟩] := by
  induction n generalizing k with
  | zero => simp [accepted] at h
  | succ n ih =>
    rw [accepted, Nat.testBit_or, Bool.or_eq_true] at h
    rcases h with h | h
    · split at h
      · next hkeeps =>
        rw [hsymbols k s h]
        exact .keep f hkeeps
      · simp at h
    · split at h
      · next r hexpand => exact .expand hexpand (word_of_testBit_singlesBy f h fun k => ih)
      · simp at h

theorem word_of_testBit_singles {r : Rule} {s : Symbol} (f : Option String)
    (h : (singles g symbolsOf r).testBit s = true) : Word g.inner f r [⟨kindOf s, f⟩] :=
  word_of_testBit_singlesBy f h fun _ => word_of_testBit_accepted hsymbols f

theorem word_of_testBit_repeats {r : Rule} {s : Symbol} (f : Option String)
    (h : (repeats g symbolsOf r).testBit s = true) : Word g.inner f (.many r) [⟨kindOf s, f⟩] := by
  have hall : ∀ ls : List (String × Rule), (∀ l ∈ ls, g.list? (.rule l.1) = some r) →
      (ls.foldr (fun l m => symbolsOf (.rule l.1) ||| m) (singles g symbolsOf r)).testBit s = true →
        Word g.inner f (.many r) [⟨kindOf s, f⟩] := by
    intro ls hls h
    induction ls with
    | nil => exact .once (word_of_testBit_singles hsymbols f h)
    | cons l ls ih =>
      rw [List.foldr_cons, Nat.testBit_or, Bool.or_eq_true] at h
      rcases h with h | h
      · rw [hsymbols _ s h]
        exact .list f (hls l (List.mem_cons_self ..))
      · exact ih (fun l hl => hls l (List.mem_cons_of_mem _ hl)) h
  exact hall _ (fun l hl => of_decide_eq_true (List.mem_filter.mp hl).2) h

/-- **Whatever is chosen from what a rule has matched is a word of the rule.** -/
theorem word_of_mem_rests {r : Rule} {f : Option String} {w rest : Trace}
    (h : rest ∈ rests g symbolsOf r f w) :
    ∃ used, w = used ++ rest ∧ ∀ ls, Chosen kindOf used ls → Word g.inner f r ls := by
  induction r generalizing f w rest with
  | blank =>
    obtain rfl : rest = w := by simpa [rests] using h
    refine ⟨[], rfl, fun ls hls => ?_⟩
    cases hls
    exact .blank f
  | item k => exact word_of_mem_first (fun s => word_of_testBit_accepted hsymbols f) h
  | seq r r' ih ih' =>
    obtain ⟨mid, hmid, hrest⟩ := List.mem_flatMap.mp h
    obtain ⟨used, rfl, hused⟩ := ih hmid
    obtain ⟨used', rfl, hused'⟩ := ih' hrest
    refine ⟨used ++ used', by simp, fun ls hls => ?_⟩
    obtain ⟨us, us', rfl, hus, hus'⟩ := hls.split
    exact .seq (hused us hus) (hused' us' hus')
  | choice r r' ih ih' =>
    rw [rests, List.mem_append, List.mem_append] at h
    rcases h with h | h | h
    · exact word_of_mem_first (fun s => word_of_testBit_singles hsymbols f) h
    · obtain ⟨used, rfl, hused⟩ := ih h
      exact ⟨used, rfl, fun ls hls => .left r' (hused ls hls)⟩
    · obtain ⟨used, rfl, hused⟩ := ih' h
      exact ⟨used, rfl, fun ls hls => .right r (hused ls hls)⟩
  | many r ih =>
    have hrepeat : ∀ {w rest}, rest ∈ first (repeats g symbolsOf r) f w →
        ∃ used, w = used ++ rest ∧ ∀ ls, Chosen kindOf used ls → Word g.inner f (.many r) ls :=
      fun h => word_of_mem_first (fun s => word_of_testBit_repeats hsymbols f) h
    have honce : ∀ {rest}, rest ∈ first (repeats g symbolsOf r) f w ++ rests g symbolsOf r f w →
        ∃ used, w = used ++ rest ∧ ∀ ls, Chosen kindOf used ls → Word g.inner f (.many r) ls := by
      intro rest h
      rcases List.mem_append.mp h with h | h
      · exact hrepeat h
      · obtain ⟨used, rfl, hused⟩ := ih h
        exact ⟨used, rfl, fun ls hls => .once (hused ls hls)⟩
    rw [rests] at h
    rcases List.mem_append.mp h with h | h
    · exact honce h
    · obtain ⟨mid, hmid, hrest⟩ := List.mem_flatMap.mp h
      obtain ⟨used, rfl, hused⟩ := honce hmid
      obtain ⟨used', rfl, hused'⟩ := hrepeat hrest
      refine ⟨used ++ used', by simp, fun ls hls => ?_⟩
      obtain ⟨us, us', rfl, hus, hus'⟩ := hls.split
      exact .more (hused us hus) (hused' us' hus')
  | field name r ih =>
    obtain ⟨used, rfl, hused⟩ := ih h
    exact ⟨used, rfl, fun ls hls => .field (hused ls hls)⟩

end Matching

end SyntaxKit.Grammar
