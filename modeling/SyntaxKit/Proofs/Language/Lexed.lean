import SyntaxKit.Grammar.Harneet
import SyntaxKit.Proofs.Grammar.Residual
import SyntaxKit.Proofs.Language.Generated
import SyntaxKit.Proofs.Lexer.Lexeme

/-!
# Tokens that have been built from a grammar

What a lexical automaton reads as a token is a text that the grammar gives the token
(`Language.Lexed`).  One exception is made: a line break that separates may be read together with the
line breaks behind it.

`Language.isLexed` decides this by going through the automaton with what is left of the patterns of
all tokens (`Residue`), until nothing new is found.  That nothing is new is all that is needed of
the outcome, and so only this is checked of it (`Language.exists_matches`).
-/

namespace SyntaxKit

open Grammar Lexer

/-- What an automaton reads as a token of a kind: a separator reaches over several line breaks. -/
def Grammar.lexeme? (g : Grammar) (k : Kind) : Option Pattern :=
  if k = .separator then some (.seq (.text ['\n']) (.repeated (.oneOf ['\n']))) else g.pattern? k

/-- A state of the automaton, and what may be left of the texts of tokens there. -/
structure Residue where
  state : Nat
  left : List (Symbol × Pattern)

/-- Whether no more is left in the same state. -/
def Residue.within (r s : Residue) : Bool :=
  r.state == s.state && r.left.all fun x => s.left.any (· = x)

namespace Language

variable (lang : Language) (g : Grammar)

/-! ## Reading tokens of a grammar -/

/-- The tokens of a language are those of a grammar. -/
structure Lexed : Prop where
  lexeme : ∀ {k body}, Lexeme lang k body →
    ∃ p, g.lexeme? (lang.kindOf k) = some p ∧ p.Matches body
  /-- Blank space may stand anywhere. -/
  space : ∀ c, Text.isSpace c = true → ∃ p ∈ g.extras, p.Matches [c]

/-! ## Deciding it -/

/-- What is left behind a range of characters, in all states that it leads to. -/
def residuesBehind (r : Residue) : List Residue :=
  (lang.lexRow r.state).edges.flatMap fun e =>
    if e.skips then []
    else e.ranges.map fun range => ⟨e.target,
      r.left.flatMap fun x => (x.2.behind range.1 range.2).map fun p => (x.1, p)⟩

/-- Everything that may be left, given what is still to be looked at and what has been seen. -/
def residues : Nat → List Residue → List Residue → List Residue
  | 0, _, seen => seen
  | _ + 1, [], seen => seen
  | n + 1, r :: todo, seen =>
    if seen.any (·.within r) then residues n todo seen
    else residues n (lang.residuesBehind r ++ todo) (r :: seen)

/-- Whether a token that is recognised in a state may end there. -/
def endsThere (r : Residue) : Bool :=
  match (lang.lexRow r.state).accepts with
  | some k => r.left.any fun x => x.1 == k && x.2.nullable
  | none => true

/-- Whether nothing is left behind one of some residues that is not among them. -/
def areClosed (rs : List Residue) : Bool :=
  rs.all fun r => lang.endsThere r
    && (lang.residuesBehind r).all fun r' => rs.any (·.within r')

/-- The texts of all tokens that the automaton recognises. -/
def recognised : List (Symbol × Pattern) :=
  (List.range lang.tokenCount).filterMap fun k =>
    if lang.lexStates.toList.any fun s => s.accepts == some k then
      (g.lexeme? (lang.kindOf k)).map fun p => (k, p)
    else none

/-- The states in which the automaton is outside of tokens, before any token that it recognises. -/
def startResidues : List Residue :=
  ((List.range lang.lexStates.size).filter fun i => (lang.lexRow i).isOutside).map fun i =>
    ⟨i, lang.recognised g⟩

/-- Whether the residues found from the start are closed, and all starts are among them. -/
def startsAreRead (rs : List Residue) : Bool :=
  lang.areClosed rs && (lang.startResidues g).all fun r => rs.any (·.within r)

/-- Decides whether the automaton reads the tokens of the grammar. -/
def isLexed : Bool :=
  lang.startsAreRead g (lang.residues 1000 (lang.startResidues g) [])
    && (lang.keywords.all fun word => g.lexeme? (lang.kindOf word.2) = some (.text word.1))
    && [9, 10, 11, 12, 13, 32].all fun n =>
      g.extras.any fun p => (p.behind n n).any (·.nullable)

variable {lang g}

/-- **What is read from a residue on is a text of what is left.** -/
theorem exists_matches {rs : List Residue} (h : lang.areClosed rs = true) (body : List Char) :
    ∀ r ∈ rs, ∀ {j k}, follow lang r.state body = some j →
      (lang.lexRow j).accepts = some k → ∃ p, (k, p) ∈ r.left ∧ p.Matches body := by
  induction body with
  | nil =>
    intro r hr j k hfollow haccepts
    obtain rfl : r.state = j := by simpa [follow] using hfollow
    have hends := (Bool.and_eq_true _ _ ▸ List.all_eq_true.mp h r hr).1
    rw [endsThere, haccepts] at hends
    obtain ⟨x, hx, hend⟩ := List.any_eq_true.mp hends
    simp only [Bool.and_eq_true, beq_iff_eq] at hend
    exact ⟨x.2, hend.1 ▸ hx, Pattern.matches_nil hend.2⟩
  | cons c body ih =>
    intro r hr j k hfollow haccepts
    rw [follow] at hfollow
    split at hfollow
    · next e hfind =>
      split at hfollow
      · simp at hfollow
      · next hskips =>
        have he := List.mem_of_find?_eq_some hfind
        have hadmits : e.admits c = true := by simpa using List.find?_some hfind
        obtain ⟨range, hrange, hc⟩ := List.any_eq_true.mp hadmits
        simp only [Bool.and_eq_true, decide_eq_true_eq] at hc
        -- what is left behind the character is among the residues, perhaps with less left
        let next : Residue := ⟨e.target,
          r.left.flatMap fun x => (x.2.behind range.1 range.2).map fun p => (x.1, p)⟩
        have hnext : next ∈ lang.residuesBehind r := by
          refine List.mem_flatMap.mpr ⟨e, he, ?_⟩
          rw [if_neg hskips]
          exact List.mem_map.mpr ⟨range, hrange, rfl⟩
        have hclosed := (Bool.and_eq_true _ _ ▸ List.all_eq_true.mp h r hr).2
        obtain ⟨s, hs, hwithin⟩ := List.any_eq_true.mp (List.all_eq_true.mp hclosed next hnext)
        rw [Residue.within, Bool.and_eq_true, beq_iff_eq, List.all_eq_true] at hwithin
        obtain ⟨hstate, hleft⟩ := hwithin
        rw [show e.target = s.state from hstate.symm] at hfollow
        obtain ⟨p, hp, hmatches⟩ := ih s hs hfollow haccepts
        have hmem : (k, p) ∈ next.left := by simpa using hleft _ hp
        obtain ⟨x, hx, hmap⟩ := List.mem_flatMap.mp hmem
        obtain ⟨q, hq, heq⟩ := List.mem_map.mp hmap
        obtain ⟨rfl, rfl⟩ := Prod.mk.inj heq
        exact ⟨x.2, hx, Pattern.matches_cons hc hq hmatches⟩
    · simp at hfollow

/-- What is read as a token is a text of the token. -/
theorem matches_of_spells {rs : List Residue} (h : lang.startsAreRead g rs = true) {k : Symbol}
    {body : List Char} (hspells : Spells lang k body) :
    ∃ p, g.lexeme? (lang.kindOf k) = some p ∧ p.Matches body := by
  rw [startsAreRead, Bool.and_eq_true, List.all_eq_true] at h
  obtain ⟨i, j, hi, hfollow, haccepts⟩ := hspells
  have hbound : i < lang.lexStates.size := by
    by_contra hge
    rw [lexRow, Array.getD_eq_getD_getElem?, Array.getElem?_eq_none (Nat.le_of_not_lt hge)] at hi
    simp [LexState.isOutside, default, instInhabitedLexState.default] at hi
  have hstart := h.2 ⟨i, lang.recognised g⟩ (List.mem_map.mpr ⟨i, List.mem_filter.mpr
    ⟨List.mem_range.mpr hbound, hi⟩, rfl⟩)
  obtain ⟨s, hs, hwithin⟩ := List.any_eq_true.mp hstart
  rw [Residue.within, Bool.and_eq_true, beq_iff_eq, List.all_eq_true] at hwithin
  obtain ⟨hstate, hleft⟩ := hwithin
  rw [show i = s.state from hstate.symm] at hfollow
  obtain ⟨p, hp, hmatches⟩ := exists_matches h.1 body s hs hfollow haccepts
  have hmem := hleft _ hp
  simp only [List.any_eq_true, decide_eq_true_eq, exists_eq_right] at hmem
  obtain ⟨k', -, hk'⟩ := List.mem_filterMap.mp hmem
  split at hk'
  · obtain ⟨p', hp', heq⟩ := Option.map_eq_some_iff.mp hk'
    obtain ⟨rfl, rfl⟩ := Prod.mk.inj heq
    exact ⟨_, hp', hmatches⟩
  · simp at hk'

theorem lexed_of_isLexed (h : lang.isLexed g = true) : lang.Lexed g := by
  simp only [isLexed, Bool.and_eq_true, List.all_eq_true, decide_eq_true_eq] at h
  obtain ⟨⟨hstarts, hkeywords⟩, hspaces⟩ := h
  constructor
  · rintro k body (hspells | ⟨hkeyword, -⟩)
    · exact matches_of_spells hstarts hspells
    · exact ⟨_, hkeywords _ hkeyword, Pattern.matches_text body⟩
  · intro c hc
    have hmem : c.toNat ∈ [9, 10, 11, 12, 13, 32] := by
      rw [Text.isSpace, decide_eq_true_eq] at hc
      simp only [List.mem_cons, List.not_mem_nil, or_false]
      omega
    obtain ⟨p, hp, hany⟩ := List.any_eq_true.mp (hspaces _ hmem)
    obtain ⟨q, hq, hnullable⟩ := List.any_eq_true.mp hany
    exact ⟨p, hp, Pattern.matches_cons ⟨Nat.le_refl _, Nat.le_refl _⟩ hq
      (Pattern.matches_nil hnullable)⟩

theorem isSpace_of_matches {body : List Char}
    (h : (Pattern.repeated (.oneOf ['\n'])).Matches body) : ∀ c ∈ body, Text.isSpace c = true := by
  generalize hp : Pattern.repeated (.oneOf ['\n']) = p at h
  induction h with
  | done p => simp
  | again first rest _ ih =>
    obtain rfl := Pattern.repeated.inj hp
    refine List.forall_mem_append.mpr ⟨?_, ih rfl⟩
    cases first with
    | @char s c hc =>
      have hbreak : c.toNat = 10 := by
        simp [CharClass.contains] at hc
        omega
      intro d hd
      rw [List.mem_singleton] at hd
      rw [hd, Text.isSpace, hbreak]
      rfl
  | blank | char | seq | left | right => simp at hp

/-- What is read as a token is a text that the grammar gives it, and perhaps, behind a separator,
blank space. -/
theorem Lexed.split (hlexed : lang.Lexed g) {k : Symbol} {body : List Char}
    (h : Lexeme lang k body) : ∃ p front rest, g.pattern? (lang.kindOf k) = some p
      ∧ body = front ++ rest ∧ p.Matches front ∧ ∀ c ∈ rest, Text.isSpace c = true := by
  obtain ⟨p, hp, hmatches⟩ := hlexed.lexeme h
  rw [Grammar.lexeme?] at hp
  split at hp
  · next hseparator =>
    obtain rfl := Option.some.inj hp
    cases hmatches with
    | seq first second =>
      exact ⟨_, _, _, by rw [hseparator]; rfl, rfl, first, isSpace_of_matches second⟩
  · exact ⟨p, body, [], hp, by simp, hmatches, by simp⟩

end Language

set_option maxRecDepth 100000 in
/-- **Harneet's lexical automaton reads the tokens of its grammar.** -/
theorem Harneet.lexed : language.Lexed grammar :=
  Language.lexed_of_isLexed (by decide +kernel)

end SyntaxKit
