import SyntaxKit.Proofs.Lexer.Boundary
import SyntaxKit.Proofs.Parse.Paid

/-!
# The trees that parsing hands out

What is handed out for a text is consistent and pays for its errors, its leaves lie where the text may
be cut, and what stands beside the grammar is marked so (`Tree.Parsed`).  This is so whatever tree was
at hand, as long as what is not marked as changed in that tree was so where it is now
(`Language.parsed_parseWith`), and for every way to cut a text that reading keeps to (`Cutting.Suits`).
That leaves begin and end between characters is one of them (`Cutting.betweenCharacters`).
-/

namespace SyntaxKit

variable {lang : Language} {text : List Char} {cut : Cutting}

/-! ## Cutting a text -/

/-- A cutting that reading a text keeps to, and under which the text as a whole may be one leaf. -/
structure Cutting.Suits (lang : Language) (text : List Char) (cut : Cutting) : Prop where
  origin : cut.cuts Extent.zero
  read : ∀ state position, cut.cuts position →
    (Tree.token (Lexer.next lang (Source.ofText text) state position)).Aligned cut.lies
      position.bytes
  whole : cut.lies 0 (Extent.zero, Extent.ofText text)

/-- Leaves begin and end between the characters of a text. -/
def Cutting.betweenCharacters (text : List Char) : Cutting :=
  .atOffsets (Utf8.IsBoundary (Utf8.encode text))

theorem Cutting.suits_betweenCharacters (lang : Language) (text : List Char) :
    (betweenCharacters text).Suits lang text where
  origin := Utf8.isBoundary_zero text
  read state _ hposition := Lexer.aligned_next hposition state
  whole := by
    refine ⟨Utf8.isBoundary_zero text, .inl ?_⟩
    simp

/-- What is known of the tree of a text. -/
structure Tree.Parsed (lang : Language) (cut : Cutting) (t : Tree) : Prop where
  paid : t.Paid lang
  aligned : t.Aligned cut.lies 0
  marked : t.Marked lang

namespace Tree

/-- Balancing leaves a tree paid for. -/
theorem Paid.balance {t : Tree} (h : t.Paid lang) (generation : Nat) :
    (t.balance lang generation).Paid lang := by
  obtain ⟨hconsistent, halike⟩ := h.1.balance generation
  exact ⟨hconsistent, fun hunpaid => h.2 ((halike.unpaid_iff h.1 hconsistent).mp hunpaid)⟩

/-- Balancing leaves all leaves where they are. -/
theorem Parsed.balance {t : Tree} (h : t.Parsed lang cut) (generation : Nat) :
    (t.balance lang generation).Parsed lang cut where
  paid := h.paid.balance generation
  aligned := by
    obtain ⟨-, halike⟩ := h.paid.1.balance generation
    rw [Aligned, halike.spans]
    exact h.aligned
  marked := h.marked.balance generation

end Tree

namespace Language

/-- The tree of a text that was given up. -/
theorem parsed_unread (hlang : lang.Orderly) (hcut : cut.Suits lang text) (generation : Nat) :
    (lang.unread generation text).Parsed lang cut := by
  have herror : lang.tokenCount ≤ Symbol.error := Nat.le_trans hlang.tokens (by decide)
  have htoken : ∀ {k : Token}, k.symbol = Symbol.error → k.missing = false → k.extra = false →
      k.padding = Extent.zero → k.size = Extent.ofText text →
      (Tree.token k).Consistent lang ∧ (Tree.token k).Marked lang
        ∧ (Tree.token k).Aligned cut.lies 0 := by
    intro k hsymbol hmissing hextra hpadding hsize
    refine ⟨.token {
      symbol := by rw [hsymbol]; decide
      known := .inl hsymbol
      missing := fun h => absurd (h.symm.trans hmissing) (by simp)
      error := fun _ => hextra
      found := fun _ => hmissing
      endOfText := fun h => absurd (hsymbol.symm.trans h) (by decide) },
      Tree.marked_token fun _ => ?_, Tree.aligned_token.mpr ?_⟩
    · rw [hsymbol, Parse.isExtraToken, actions_eq_nil herror]
      rfl
    · rw [hpadding, hsize]
      exact hcut.whole
  rw [unread]
  obtain ⟨hconsistent, hmarked, haligned⟩ := htoken (k := {
    symbol := Symbol.error, padding := Extent.zero, size := Extent.ofText text, lookahead := 0
    state := ParseState.recovering, keyword := false, missing := false, extra := false
    changed := false, culprit := '\x00' }) rfl rfl rfl rfl rfl
  exact {
    paid := Law.paid_ofChildren_error (by simpa using hconsistent)
    aligned := Tree.aligned_branch (cut.empty hcut.origin) (Tree.alignedAll_singleton.mpr haligned)
    marked := Tree.marked_ofChildren herror (by simpa using hmarked) }

/-- **Parsing gives trees that are consistent and paid for, cut where the text may be cut, and marked**,
whatever tree is at hand, as long as what is not marked as changed in it is so where it is now. -/
theorem parsed_parseWith (hlang : lang.Orderly) (hcut : cut.Suits lang text) {old : Option Tree}
    (hold : ∀ t, old = some t → t.Spare lang cut.lies 0 ∧ t.Marked lang) :
    (lang.parseWith old text).Parsed lang cut := by
  have hrounds : ∀ env : Setting, env.lang = lang → env.source = Source.ofText text → ∀ t,
      (Parse.rounds env env.maxSteps (Parse.begin old) 0).finished = some t →
      t.Parsed lang cut := by
    rintro env rfl hsource t ht
    have hclosed : (Law.paid env.lang cut).Closed env :=
      Law.closed_paid hlang hcut.origin fun state position hposition =>
        hsource ▸ hcut.read state position hposition
    obtain ⟨hpaid, haligned, hmarked⟩ := Parse.whole_of_rounds hclosed hlang.someToken hold ht
    exact ⟨hpaid, haligned, hmarked⟩
  have hfinish : ∀ (generation : Nat) (best : Option Tree),
      (∀ t, best = some t → t.Parsed lang cut) →
      (lang.finish generation text best).Parsed lang cut := by
    intro generation best hbest
    cases best with
    | some t => exact (hbest t rfl).balance generation
    | none => exact parsed_unread hlang hcut generation
  rw [parseWith, parseSource, Source.suffixAt_zero]
  exact hfinish _ _ (hrounds _ rfl rfl)

theorem parsed_parse (hlang : lang.Orderly) (hcut : cut.Suits lang text) :
    (lang.parse text).Parsed lang cut := by
  unfold parse
  exact parsed_parseWith hlang hcut fun t ht => by simp at ht

end Language

end SyntaxKit
