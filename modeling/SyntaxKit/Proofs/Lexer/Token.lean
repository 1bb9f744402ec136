import SyntaxKit.Proofs.Language.Orderly
import SyntaxKit.Lexer.Token

/-!
# What kind of token is read

Whatever is read is a token of the language or text in error, and only the end of the text is marked
as standing beside the grammar.
-/

namespace SyntaxKit

namespace Lexer

variable {lang : Language}

theorem arrive_eq_some {s : LexState} {pos : Extent} {found : Option (Symbol × Extent)}
    {token : Symbol} {stop : Extent} (h : arrive s pos found = some (token, stop)) :
    s.accepts = some token ∨ found = some (token, stop) := by
  rw [arrive] at h
  split at h
  · next symbol haccepts =>
    simp only [Option.some.injEq, Prod.mk.injEq] at h
    exact .inl (h.1 ▸ haccepts)
  · exact .inr h

/-- A token that is found is recognised in some state. -/
theorem accepts_of_run {token : Symbol} {stop : Extent} (rest : List Char) :
    ∀ {state : Nat} {start pos : Extent} {found : Option (Symbol × Extent)},
      (run lang state rest start pos found).found = some (token, stop) →
      (∃ i, (lang.lexStates.getD i default).accepts = some token) ∨ found = some (token, stop) := by
  induction rest with
  | nil =>
    intro state start pos found h
    rw [run] at h
    simp only at h
    split at h
    · next last _ =>
      rcases arrive_eq_some h with h | h
      · exact .inl ⟨last, h⟩
      · exact (arrive_eq_some h).imp_left fun h => ⟨state, h⟩
    · exact (arrive_eq_some h).imp_left fun h => ⟨state, h⟩
  | cons c rest ih =>
    intro state start pos found h
    rw [run] at h
    simp only at h
    split at h
    · exact (arrive_eq_some h).imp_left fun h => ⟨state, h⟩
    · rcases ih h with h | h
      · exact .inl h
      · exact (arrive_eq_some h).imp_left fun h => ⟨state, h⟩

theorem lt_of_scan (hlang : lang.Orderly) {src : Source} {state : Nat} {pos : Extent}
    {token : Symbol} {stop : Extent} (h : (scan lang src state pos).found = some (token, stop)) :
    token < lang.tokenCount := by
  have hrun : ∀ {state start pos rest}, (run lang state rest start pos none).found
      = some (token, stop) → token < lang.tokenCount := by
    intro state start pos rest h
    rcases accepts_of_run rest h with ⟨i, hi⟩ | h
    · exact hlang.lexical i token hi
    · simp at h
  rw [scan] at h
  split at h
  · split at h <;> exact hrun h
  · exact hrun h

theorem skip_garbage (src : Source) (fuel : Nat) :
    ∀ (s : Skipped) (pos : Extent) (furthest : Nat),
      ∃ s', (skip lang src fuel s pos furthest).1 = .garbage s' := by
  induction fuel with
  | zero => exact fun s _ _ => ⟨s, rfl⟩
  | succ fuel ih =>
    intro s pos furthest
    rw [skip]
    simp only
    split
    · exact ⟨s, rfl⟩
    · split
      · split
        · exact ⟨s, rfl⟩
        · exact ih _ _ _
      · exact ih _ _ _

theorem beginSkip_garbage (src : Source) (r : Scan) (furthest : Nat) :
    ∃ s, (beginSkip lang src r furthest).1 = .garbage s := by
  rw [beginSkip]
  simp only
  split
  · split
    · exact ⟨_, rfl⟩
    · exact skip_garbage src _ _ _ _
  · exact skip_garbage src _ _ _ _

theorem lt_of_read (hlang : lang.Orderly) {src : Source} {state : ParseState} {pos : Extent}
    {token : Symbol} {start stop : Extent}
    (h : (read lang src state pos).1 = .token token start stop) : token < lang.tokenCount := by
  rw [read] at h
  simp only at h
  split at h
  · next symbol stop' hfound =>
    simp only [Reading.token.injEq] at h
    exact h.1 ▸ lt_of_scan hlang hfound
  · split at h
    · next symbol stop' hfound =>
      simp only [Reading.token.injEq] at h
      rw [← h.1]
      split at hfound
      · exact lt_of_scan hlang hfound
      · exact lt_of_scan hlang hfound
    · obtain ⟨s, hs⟩ := @beginSkip_garbage lang src
        (if state = ParseState.recovering then scan lang src (lang.lexState state) pos
          else scan lang src (lang.lexState ParseState.recovering) pos)
        (max ((scan lang src (lang.lexState state) pos).stop.bytes + 1)
          ((if state = ParseState.recovering then scan lang src (lang.lexState state) pos
            else scan lang src (lang.lexState ParseState.recovering) pos).stop.bytes + 1))
      rw [hs] at h
      simp at h

theorem lt_of_classify (hlang : lang.Orderly) (src : Source) (state : ParseState)
    (start stop : Extent) : (classify lang src state start stop).1 < lang.tokenCount := by
  rw [classify]
  split
  · next bytes symbol _ =>
    split
    · next h =>
      have hactions := (Bool.and_eq_true_iff.mp h).2
      rw [Language.hasActions, Language.entry?] at hactions
      split at hactions
      · next hlt => exact hlt
      · simp at hactions
    · exact hlang.word.1
  · exact hlang.word.1

/-- **A token that is read is one of the language, or text in error**; only the end of the text stands
beside the grammar, and nothing that is read is missing. -/
theorem next_spec (hlang : lang.Orderly) (src : Source) (state : ParseState) (pos : Extent) :
    let k := next lang src state pos
    k.missing = false ∧ (k.symbol = Symbol.error ∧ k.extra = false
      ∨ k.symbol < lang.tokenCount ∧ k.extra = (k.symbol == Symbol.endOfText)) := by
  intro k
  show (next lang src state pos).missing = false ∧ _
  rw [show k = next lang src state pos from rfl, next]
  split
  · exact ⟨rfl, .inl ⟨rfl, rfl⟩⟩
  · next symbol start stop furthest hread =>
    have hlt := lt_of_read hlang (congrArg Prod.fst hread)
    have hkind : (if symbol = lang.wordToken then classify lang src state start stop
        else (symbol, false)).1 < lang.tokenCount := by
      split
      · exact lt_of_classify hlang src state start stop
      · exact hlt
    generalize (if symbol = lang.wordToken then classify lang src state start stop
      else (symbol, false)) = kind at hkind
    exact ⟨rfl, .inr ⟨hkind, rfl⟩⟩

end Lexer

end SyntaxKit
