import SyntaxKit.Proofs.Language.Rivals
import SyntaxKit.Parse.Advance

/-!
# Tokens without a rival

Where a token yields to another one that could be read at the same place, a reading that can do something
with the other one should not be given the token that yields.  `Unrivalled` says so of a token, a place
and a state.  It holds of what is read afresh, of what was read before and may be used again, and of an
identifier that a keyword is taken as; and it stays so after a reduction, if the tables resolve rivals.
-/

namespace SyntaxKit

/-- No token that is to be preferred to a token in a state has been heard at a position. -/
def Unrivalled (lang : Language) (src : Source) (rivals : List (Symbol × Symbol)) (state : ParseState)
    (pos : Extent) (symbol : Symbol) : Prop :=
  ∀ k, Lexer.Heard lang src pos k → (symbol, k.symbol) ∈ rivals →
    lang.hasActions state k.symbol = false

open Lexer Parse

variable {lang : Language} {d : Accord} {src : Source} {rivals : List (Symbol × Symbol)}

/-- It stays so after a reduction. -/
theorem Unrivalled.reduce (hrivals : lang.Resolves d rivals) {a b : ParseState} {ss : List Symbol}
    {pos : Extent} {token symbol : Symbol} {production : Nat}
    (h : Unrivalled lang src rivals b pos token) (hpath : lang.Path a ss b)
    (hmem : .reduce symbol ss.length production ∈ lang.actions b token) :
    Unrivalled lang src rivals (lang.nextState a symbol) pos token :=
  fun k hk hrival => hrivals.reduce _ hrival hpath hmem (h k hk hrival)

section Reading

variable (hd : lang.Accordant d) (hclear : d.Clear lang)

include hd hclear

/-- What has been read as in recovery yields to nothing that is only read there, unless it is a word. -/
theorem not_instead_of_lexState {pos : Extent} {k k' : Token} (h : Heard lang src pos k)
    (h' : Heard lang src pos k')
    (hlex : lang.lexState k.state = lang.lexState ParseState.recovering) :
    (k'.symbol, k.symbol) ∉ d.instead := by
  intro hmem
  obtain ⟨start', stop', href⟩ := h'.reference_of_instead hd hclear hmem
  obtain ⟨raw, start, stop, hread, hk⟩ := h.cases.resolve_left (hclear.known _ hmem).2.1
  obtain ⟨s, hs, hfind⟩ := find_of_read hread
  have hsame : lang.lexState s = lang.lexState ParseState.recovering := by
    rcases hs with rfl | rfl
    · exact hlex
    · rfl
  rw [hsame, ← reference, href] at hfind
  obtain ⟨-, hfound⟩ := Prod.mk.inj hfind
  obtain ⟨hraw, -⟩ := Prod.mk.inj (Option.some.inj hfound)
  have hword := (hclear.word.2 _ hmem).1
  rw [hk.plain (hraw ▸ hword), ← hraw] at hmem
  exact (hclear.once _ hmem _ hmem).1 rfl

/-- A word stands between the same places as a keyword that has been heard where it is read. -/
theorem keywordAt_of_word {pos start stop : Extent} {state : ParseState} {k' : Token}
    (hread : (read lang src state pos).1 = .token lang.wordToken start stop)
    (h' : Heard lang src pos k') (hkeyword : ∃ word, (word, k'.symbol) ∈ lang.keywords) :
    KeywordAt lang src start stop k'.symbol := by
  have href := (hd.read hread lang.wordToken stop rfl).resolve_left hclear.word.1
  exact h'.keywordAt hd hclear hkeyword href

/-- What is heard as an identifier where a keyword is heard is known to be one. -/
theorem keyword_of_word {pos : Extent} {k k' : Token} (h : Heard lang src pos k)
    (hword : k.symbol = lang.wordToken) (h' : Heard lang src pos k')
    (hkeyword : ∃ word, (word, k'.symbol) ∈ lang.keywords) : k.keyword = true := by
  obtain ⟨raw, start, stop, hread, hk⟩ := h.cases.resolve_left (hword ▸ hclear.plain.1)
  obtain rfl : raw = lang.wordToken := by
    by_contra hraw
    exact hraw ((hk.plain hraw).symm.trans hword)
  exact hk.keyword rfl _ (keywordAt_of_word hd hclear hread h' hkeyword)

/-! ## What a reading is offered -/

variable (hrivals : lang.Resolves d rivals)

include hrivals

/-- **What is read afresh has no rival** in the state in which it is read. -/
theorem unrivalled_next (state : ParseState) (pos : Extent) :
    Unrivalled lang src rivals state pos (next lang src state pos).symbol := by
  intro k' h' hmem
  by_contra hactions
  rw [Bool.not_eq_false] at hactions
  rcases hrivals.yields _ hmem with hinstead | ⟨hisword, hkeyword⟩
  · refine not_instead_of_lexState hd hclear (heard_next state) h' ?_ hinstead
    rw [state_next]
    exact hrivals.reads _ hmem hinstead state hactions
  · obtain ⟨herror, -⟩ | ⟨raw, start, stop, hread, hk, -, hkept⟩ :=
      next_cases lang src pos state
    · exact hclear.plain.1 (hisword.symm.trans herror)
    · obtain rfl : raw = lang.wordToken := by
        by_contra hraw
        exact hraw ((hk.plain hraw).symm.trans hisword)
      have hat := keywordAt_of_word hd hclear hread h' hkeyword
      have hsame : k'.symbol = lang.wordToken := (hkept rfl _ hat hactions).symm.trans hisword
      obtain ⟨word, hmem'⟩ := hkeyword
      exact (hclear.keyword _ hmem').1 hsame

/-- **What was read before and may be used again has no rival.** -/
theorem unrivalled_of_canReuse {env : Setting} (henv : env.lang = lang) {state : ParseState}
    {pos : Extent} {k : Token} (h : Heard lang src pos k)
    (hreuse : canReuse env state (.token k) (lang.entry? state k.symbol) = true) :
    Unrivalled lang src rivals state pos k.symbol := by
  subst henv
  intro k' h' hmem
  rw [canReuse.eq_def] at hreuse
  split at hreuse
  · simp at hreuse
  · next e hentry =>
    simp only at hreuse
    split at hreuse
    · next hsafe =>
      simp only [Tree.firstState?, Tree.firstSymbol, Tree.isKeyword, Tree.state?, Option.map_some,
        Bool.and_eq_true, beq_iff_eq, Option.some.injEq, Bool.or_eq_true, bne_iff_ne,
        Bool.not_eq_true'] at hsafe
      obtain ⟨hlex, hsafe⟩ := hsafe
      by_contra hactions
      rw [Bool.not_eq_false] at hactions
      rcases hrivals.yields _ hmem with hinstead | ⟨hisword, hkeyword⟩
      · refine not_instead_of_lexState hd hclear h h' ?_ hinstead
        exact hlex.trans (hrivals.reads _ hmem hinstead state hactions)
      · have hkept := keyword_of_word hd hclear h hisword h' hkeyword
        rcases hsafe with hne | ⟨hplain, -⟩
        · exact hne hisword
        · exact absurd (hkept.symm.trans hplain) (by simp)
    · split at hreuse
      · simp at hreuse
      · exact hrivals.reusable _ hmem state e hentry hreuse

/-- **An identifier that a keyword is taken as has no rival**, if there is nothing to be done with the
keyword. -/
theorem Unrivalled.asWord {state : ParseState} {pos : Extent} {k : Token}
    (h : Unrivalled lang src rivals state pos k.symbol) (hheard : Heard lang src pos k)
    (hkeyword : k.keyword = true)
    (hidle : ∀ a ∈ lang.actions state k.symbol, ∃ next, a = .shift next true) :
    Unrivalled lang src rivals state pos lang.wordToken := by
  intro k' h' hmem
  by_cases hisword : k.symbol = lang.wordToken
  · exact h k' h' (hisword ▸ hmem)
  by_contra hactions
  rw [Bool.not_eq_false] at hactions
  have hkeyword' : ∃ word, (word, k'.symbol) ∈ lang.keywords := by
    rcases hrivals.yields _ hmem with hinstead | ⟨-, hkeyword'⟩
    · exact absurd rfl (hclear.word.2 _ hinstead).2
    · exact hkeyword'
  have hsymbol := hheard.symbol.resolve_right fun hword => hisword hword.1
  have hnext := hheard.keyword.symm.trans hkeyword
  -- so both are the same keyword
  obtain ⟨-, hplain⟩ | ⟨raw, start, stop, hread, hk, hplain, -⟩ :=
    next_cases lang src pos k.state
  · exact absurd (hnext.symm.trans hplain) (by simp)
  · obtain rfl : raw = lang.wordToken := by
      by_contra hraw
      exact absurd (hnext.symm.trans (hplain hraw)) (by simp)
    have hat := (hk.word rfl).resolve_left (hsymbol ▸ hisword)
    have hsame := hat.eq (keywordAt_of_word hd hclear hread h' hkeyword')
    obtain ⟨a, ha, hne⟩ := hrivals.acts _ hmem state hactions
    obtain ⟨next, rfl⟩ := hidle a (by rwa [hsymbol, hsame])
    exact hne next rfl

end Reading

end SyntaxKit
