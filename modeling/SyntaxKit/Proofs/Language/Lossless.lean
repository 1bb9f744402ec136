import SyntaxKit.Proofs.Language.Orderly
import SyntaxKit.Lexer.Scan

/-!
# Tables by which no text is lost

A lexical automaton begins outside of tokens, where it may pass over blank space, and from its first
other character on it is inside of one.  `Language.Lossless` says that the tables keep the two apart:
what is passed over is blank space, nothing is recognised outside except for the end of the text, and
nothing is passed over inside.  It says, too, that a token which does not show is made of blank space
only.

`Language.isLossless` decides this by looking at every row; Harneet's tables meet it
(`Harneet.lossless`).
-/

namespace SyntaxKit

namespace Text

/-- Whether a character is blank space that may stand between tokens. -/
def isSpace (c : Char) : Bool := decide (9 ≤ c.toNat ∧ c.toNat ≤ 13 ∨ c.toNat = 32)

end Text

namespace LexEdge

/-- Whether the edge is taken on blank space only. -/
def onSpace (e : LexEdge) : Bool :=
  e.ranges.all fun r => decide (9 ≤ r.1 ∧ r.2 ≤ 13 ∨ 32 ≤ r.1 ∧ r.2 ≤ 32)

theorem isSpace_of_admits {e : LexEdge} (h : e.onSpace = true) {c : Char}
    (hc : e.admits c = true) : Text.isSpace c = true := by
  obtain ⟨r, hr, hin⟩ := List.any_eq_true.mp hc
  have hspace := of_decide_eq_true (List.all_eq_true.mp h r hr)
  rw [Bool.and_eq_true, decide_eq_true_eq, decide_eq_true_eq] at hin
  rw [Text.isSpace, decide_eq_true_eq]
  omega

end LexEdge

/-- Whether the automaton passes over blank space in a state, as it does before a token. -/
def LexState.isOutside (s : LexState) : Bool := s.edges.any (·.skips)

namespace Language

variable (lang : Language)

/-- The row of a state of the lexical automaton. -/
def lexRow (i : Nat) : LexState := lang.lexStates.getD i default

/-- Whether a token that does not show is recognised in a state. -/
def recognisesHidden (s : LexState) : Bool :=
  match s.accepts with
  | some token => !lang.isVisible token
  | none => false

/-- The tables of a language lose no text. -/
structure Lossless : Prop where
  /-- Reading begins outside of tokens. -/
  starts : ∀ state, (lang.lexRow (lang.lexState state)).isOutside = true
  skips : ∀ i, ∀ e ∈ (lang.lexRow i).edges, e.skips = true →
    (lang.lexRow e.target).isOutside = true ∧ e.onSpace = true
  enters : ∀ i, ∀ e ∈ (lang.lexRow i).edges, e.skips = false →
    (lang.lexRow e.target).isOutside = false
      ∧ (lang.lexRow e.target).accepts ≠ some Symbol.endOfText
  outside : ∀ i, (lang.lexRow i).isOutside = true → (lang.lexRow i).accepts = none
  /-- Only the end of the text is recognised at the end. -/
  ends : ∀ i last, (lang.lexRow i).atEnd = some last →
    (lang.lexRow i).isOutside = true ∧ (lang.lexRow last).accepts = some Symbol.endOfText
  /-- What does not show is blank space. -/
  hidden : ∀ i, ∀ e ∈ (lang.lexRow i).edges, lang.recognisesHidden (lang.lexRow e.target) = true →
    e.onSpace = true
      ∧ ((lang.lexRow i).isOutside = true ∨ lang.recognisesHidden (lang.lexRow i) = true)
  keywords : ∀ word ∈ lang.keywords, word.2 ≠ Symbol.endOfText ∧ lang.isVisible word.2 = true

/-! ## Deciding it -/

/-- Whether an edge leads where it should from a state. -/
def edgeIsLossless (s : LexState) (e : LexEdge) : Bool :=
  let target := lang.lexRow e.target
  (if e.skips then target.isOutside && e.onSpace
    else !target.isOutside && target.accepts != some Symbol.endOfText)
    && (!lang.recognisesHidden target
      || e.onSpace && (s.isOutside || lang.recognisesHidden s))

/-- Whether a row of the lexical automaton loses no text. -/
def lexRowIsLossless (s : LexState) : Bool :=
  s.edges.all (lang.edgeIsLossless s)
    && (!s.isOutside || s.accepts.isNone)
    && match s.atEnd with
      | some last => s.isOutside && (lang.lexRow last).accepts == some Symbol.endOfText
      | none => true

/-- Decides whether the tables lose no text. -/
def isLossless : Bool :=
  (lang.lexRow 0).isOutside
    && (lang.parseStates.toList.all fun row => (lang.lexRow row.lexState).isOutside)
    && lang.lexStates.toList.all lang.lexRowIsLossless
    && lang.keywords.all fun word => word.2 != Symbol.endOfText && lang.isVisible word.2

variable {lang}

theorem lexRow_mem_or_default (lang : Language) (i : Nat) :
    lang.lexRow i ∈ lang.lexStates.toList ∨ lang.lexRow i = default := by
  rw [lexRow, Array.getD_eq_getD_getElem?]
  by_cases h : i < lang.lexStates.size
  · rw [Array.getElem?_eq_getElem h]
    exact .inl (Array.getElem_mem_toList h)
  · rw [Array.getElem?_eq_none (Nat.le_of_not_lt h)]
    exact .inr rfl

theorem lossless_of_isLossless (h : lang.isLossless = true) : lang.Lossless := by
  simp only [isLossless, Bool.and_eq_true, List.all_eq_true, bne_iff_ne] at h
  obtain ⟨⟨⟨hzero, hstarts⟩, hlex⟩, hkeywords⟩ := h
  have hrow : ∀ i, lang.lexRowIsLossless (lang.lexRow i) = true := by
    intro i
    rcases lexRow_mem_or_default lang i with hi | hi
    · exact hlex _ hi
    · rw [hi]
      rfl
  simp only [lexRowIsLossless, Bool.and_eq_true, List.all_eq_true] at hrow
  have hedge : ∀ i, ∀ e ∈ (lang.lexRow i).edges, lang.edgeIsLossless (lang.lexRow i) e = true :=
    fun i => (hrow i).1.1
  simp only [edgeIsLossless, Bool.and_eq_true, Bool.or_eq_true, Bool.not_eq_true'] at hedge
  refine {
    starts := fun state => ?_
    skips := fun i e he hskips => by simpa [hskips] using (hedge i e he).1
    enters := fun i e he hskips => by simpa [hskips] using (hedge i e he).1
    outside := fun i hi => by simpa [hi] using (hrow i).1.2
    ends := fun i last hlast => by simpa [hlast] using (hrow i).2
    hidden := fun i e he hhidden => by simpa [hhidden] using (hedge i e he).2
    keywords := hkeywords }
  rw [lexState]
  rcases row_mem_or_default lang state with hstate | hstate
  · exact hstarts _ hstate
  · rw [hstate]
    exact hzero

end Language

/-- **The tables of Harneet lose no text.** -/
theorem Harneet.lossless : Harneet.language.Lossless :=
  Language.lossless_of_isLossless (by decide +kernel)

end SyntaxKit
