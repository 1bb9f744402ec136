import SyntaxKit.Grammar.Basic

/-!
# What is left of a pattern behind a character

`Pattern.behind` gives patterns of which any may follow a character in the texts of a pattern
(`Pattern.matches_cons`).  An automaton has edges for whole ranges of characters, and so this is done
for a range at once: what is given may follow whichever character of the range it is.  It need not be
everything; where a range would have to be split, nothing is given for it.
-/

namespace SyntaxKit.Grammar

namespace CharClass

/-- Whether all characters from `low` to `high` are in the set. -/
def covers (s : CharClass) (low high : Nat) : Bool :=
  if s.negated then s.ranges.all fun r => high.blt r.1.toNat || r.2.toNat.blt low
  else (List.range' low (high + 1 - low)).all fun n =>
    s.ranges.any fun r => r.1.toNat.ble n && n.ble r.2.toNat

theorem contains_of_covers {s : CharClass} {low high : Nat} (h : s.covers low high = true)
    {c : Char} (hc : low ≤ c.toNat ∧ c.toNat ≤ high) : s.contains c = true := by
  rw [covers] at h
  rw [contains]
  split at h
  · next hnegated =>
    rw [hnegated, bne_iff_ne, ne_eq, Bool.not_eq_true, List.any_eq_false]
    intro r hr
    have hrange := List.all_eq_true.mp h r hr
    simp only [Bool.or_eq_true, Nat.blt_eq] at hrange
    simp only [Bool.and_eq_true, decide_eq_true_eq]
    omega
  · next hpositive =>
    have hmem : c.toNat ∈ List.range' low (high + 1 - low) := by
      rw [List.mem_range'_1]
      omega
    obtain ⟨r, hr, hrange⟩ := List.any_eq_true.mp (List.all_eq_true.mp h _ hmem)
    simp only [Bool.and_eq_true, Nat.ble_eq] at hrange
    have hany : (s.ranges.any fun r => r.1.toNat ≤ c.toNat && c.toNat ≤ r.2.toNat) = true :=
      List.any_eq_true.mpr ⟨r, hr, by simpa using hrange⟩
    rw [hany]
    simpa using hpositive

end CharClass

namespace Pattern

/-- Whether the empty text is one of the pattern. -/
def nullable : Pattern → Bool
  | nothing | char _ => false
  | blank | repeated _ => true
  | seq p q => p.nullable && q.nullable
  | choice p q => p.nullable || q.nullable

theorem matches_nil {p : Pattern} (h : p.nullable = true) : p.Matches [] := by
  induction p with
  | nothing | char s => simp [nullable] at h
  | blank => exact .blank
  | repeated p => exact .done p
  | seq p q ih ih' =>
    rw [nullable, Bool.and_eq_true] at h
    exact .seq (ih h.1) (ih' h.2)
  | choice p q ih ih' =>
    rw [nullable, Bool.or_eq_true] at h
    exact h.elim (fun h => .left q (ih h)) fun h => .right p (ih' h)

/-- A pattern in front of another one, unless it is the blank one. -/
def before (q : Pattern) : Pattern → Pattern
  | blank => q
  | p => seq p q

theorem exists_of_matches_before {p q : Pattern} {w : List Char} (h : (before q p).Matches w) :
    ∃ s t, w = s ++ t ∧ p.Matches s ∧ q.Matches t := by
  unfold before at h
  split at h
  · exact ⟨[], w, rfl, .blank, h⟩
  · cases h with
    | seq first second => exact ⟨_, _, rfl, first, second⟩

/-- Patterns that may follow any of the characters from `low` to `high`. -/
def behind (low high : Nat) : Pattern → List Pattern
  | nothing | blank => []
  | char s => if s.covers low high then [blank] else []
  | seq p q =>
    (p.behind low high).map (before q) ++ if p.nullable then q.behind low high else []
  | choice p q => p.behind low high ++ q.behind low high
  | repeated p => (p.behind low high).map (before (repeated p))

/-- **What is left behind a character may follow it.** -/
theorem matches_cons {low high : Nat} {c : Char} (hc : low ≤ c.toNat ∧ c.toNat ≤ high)
    {p q : Pattern} (hq : q ∈ p.behind low high) {w : List Char} (h : q.Matches w) :
    p.Matches (c :: w) := by
  induction p generalizing q w with
  | nothing | blank => simp [behind] at hq
  | char s =>
    rw [behind] at hq
    split at hq
    · next hcovers =>
      obtain rfl : q = blank := by simpa using hq
      cases h
      exact .char (CharClass.contains_of_covers hcovers hc)
    · simp at hq
  | seq p p' ih ih' =>
    rw [behind, List.mem_append] at hq
    rcases hq with hq | hq
    · obtain ⟨q', hq', rfl⟩ := List.mem_map.mp hq
      obtain ⟨s, t, rfl, hs, ht⟩ := exists_of_matches_before h
      rw [← List.cons_append]
      exact .seq (ih hq' hs) ht
    · split at hq
      · next hnullable =>
        rw [← List.nil_append (c :: w)]
        exact .seq (matches_nil hnullable) (ih' hq h)
      · simp at hq
  | choice p p' ih ih' =>
    rw [behind, List.mem_append] at hq
    rcases hq with hq | hq
    · exact .left p' (ih hq h)
    · exact .right p (ih' hq h)
  | repeated p ih =>
    obtain ⟨q', hq', rfl⟩ := List.mem_map.mp hq
    obtain ⟨s, t, rfl, hs, ht⟩ := exists_of_matches_before h
    rw [← List.cons_append]
    exact .again (ih hq' hs) ht

theorem matches_seqs_cons {p : Pattern} {ps : List Pattern} {s t : List Char}
    (hs : p.Matches s) (ht : (seqs ps).Matches t) : (seqs (p :: ps)).Matches (s ++ t) := by
  cases ps with
  | nil =>
    cases ht
    rwa [List.append_nil]
  | cons p' ps => exact .seq hs ht

theorem matches_oneOf {cs : List Char} {c : Char} (h : c ∈ cs) : (oneOf cs).Matches [c] := by
  refine .char ?_
  have hany : ((cs.map fun c => (c, c)).any
      fun r => r.1.toNat ≤ c.toNat && c.toNat ≤ r.2.toNat) = true :=
    List.any_eq_true.mpr ⟨(c, c), List.mem_map.mpr ⟨c, h, rfl⟩, by simp⟩
  rw [CharClass.contains, hany]
  rfl

/-- A text matches itself. -/
theorem matches_text (cs : List Char) : (text cs).Matches cs := by
  induction cs with
  | nil => exact .blank
  | cons c cs ih => exact matches_seqs_cons (matches_oneOf (List.mem_singleton_self c)) ih

end Pattern

end SyntaxKit.Grammar
