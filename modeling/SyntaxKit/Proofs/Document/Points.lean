import SyntaxKit.Proofs.Document.Reached
import SyntaxKit.Proofs.Parse.Kept
import SyntaxKit.Proofs.Tree.Ranges

/-!
# The points of a document

Every node of the tree of a document begins and ends at positions of the text: its rows count the line
breaks before it, and its columns the bytes behind the last of them, however many edits have led to the
document.  That an edit gives two points of its own does not matter: whatever it moves within a
line is marked as changed and read again.

A leaf measures the text that it stands for, the blank space before it and its own text
(`Cutting.atPositions`).  Reading a token keeps to that (`Cutting.suits_atPositions`), and so does
an edit for what it does not touch (`Cutting.stable_atPositions`).  So the places of all nodes are sums of
what stands before them.
-/

namespace SyntaxKit

variable {lang : Language} {text : List Char}

namespace Cutting

/-! ## Leaves that measure their text -/

/-- A leaf that lies at an offset of a text measures the blank space there and its own text behind. -/
def Measures (text : List Char) (offset : Nat) (s : Extent × Extent) : Prop :=
  ∃ front pad body, front ++ pad ++ body <+: text ∧ Text.byteLength front = offset
    ∧ s = (Extent.ofText pad, Extent.ofText body)

/-- At a position of a text a leaf measures what follows. -/
theorem Measures.of_at {e : Extent} {s : Extent × Extent} {front : List Char}
    (h : Measures text e.bytes s) (he : Text.At text e front) :
    ∃ pad body, front ++ pad ++ body <+: text ∧ s = (Extent.ofText pad, Extent.ofText body) := by
  obtain ⟨front', pad, body, ⟨back, htext⟩, hbytes, hs⟩ := h
  obtain ⟨⟨rest, hrest⟩, rfl⟩ := he
  rw [List.append_assoc, List.append_assoc] at htext
  obtain ⟨rfl, rfl⟩ := Text.append_inj_of_byteLength (hrest.trans htext.symm)
    ((Extent.bytes_ofText front).symm.trans hbytes.symm)
  exact ⟨pad, body, ⟨back, by simpa using hrest⟩, hs⟩

/-- Leaves lie at positions of a text and measure what they stand for. -/
def atPositions (text : List Char) : Cutting where
  cuts e := ∃ front, Text.At text e front
  lies := Measures text
  empty := by
    rintro e ⟨front, hbegins, rfl⟩
    exact ⟨front, [], [], by simpa using hbegins, (Extent.bytes_ofText front).symm, rfl⟩
  behind := by
    rintro e s ⟨front, hat⟩ hs
    obtain ⟨pad, body, hbegins, rfl⟩ := hs.of_at hat
    refine ⟨front ++ pad ++ body, hbegins, ?_⟩
    rw [hat.2, Extent.ofText_append, Extent.ofText_append, Extent.add_assoc]

/-- **A token that is read at a position measures the text that it stands for.** -/
theorem suits_atPositions (hlang : lang.Orderly) (hlossless : lang.Lossless) (text : List Char) :
    (atPositions text).Suits lang text where
  origin := ⟨[], Text.At.origin text⟩
  read := by
    rintro state position ⟨before, ⟨rest, rfl⟩, rfl⟩
    obtain ⟨pad, body, post, htext, hplaced⟩ :=
      @Lexer.placed_next lang hlang hlossless before rest state
    rw [Tree.aligned_token, hplaced.padding, hplaced.size]
    exact ⟨before, pad, body, ⟨post, htext.symm⟩, (Extent.bytes_ofText before).symm, rfl⟩
  whole := ⟨[], [], text, List.prefix_rfl, rfl, rfl⟩

/-- A leaf that an edit does not touch measures the same text where it comes to lie. -/
theorem stable_atPositions (hlang : lang.Orderly) (hlossless : lang.Lossless) :
    Stable lang atPositions where
  suits := suits_atPositions hlang hlossless
  moves := by
    rintro before old after y s new ⟨front, pad, body, ⟨back, htext⟩, rfl, rfl⟩
    simp only [Change.Moves, Document.change, Extent.bytes_add, Extent.bytes_ofText, Nat.zero_add]
    refine ⟨fun hle => ?_, fun hle hplace => ?_⟩
    · -- before the stretch
      rw [List.append_assoc before] at htext
      obtain ⟨mid, rfl⟩ := Text.exists_append_of_byteLength_le htext.symm
        (by simp only [Text.byteLength_append]; omega)
      exact ⟨front, pad, body, ⟨mid ++ new ++ after, by simp⟩, rfl, rfl⟩
    · by_cases hbehind : Text.byteLength (before ++ old) ≤ Text.byteLength front
      · rw [List.append_assoc, List.append_assoc] at htext
        obtain ⟨mid, rfl⟩ := Text.exists_append_of_byteLength_le htext hbehind
        obtain rfl : mid ++ (pad ++ (body ++ back)) = after := by simpa using htext
        refine ⟨before ++ new ++ mid, pad, body, ⟨back, by simp⟩, ?_, rfl⟩
        simp only [Text.byteLength_append]
        omega
      · -- a leaf without text where something has been replaced
        obtain ⟨hpad, hbody⟩ := Nat.add_eq_zero_iff.mp (hplace.resolve_left hbehind)
        obtain rfl := Text.byteLength_eq_zero.mp hpad
        obtain rfl := Text.byteLength_eq_zero.mp hbody
        refine ⟨before ++ new, [], [], ⟨after, by simp⟩, ?_, rfl⟩
        rw [Text.byteLength_append]
        omega

end Cutting

/-- **Every node of a tree whose leaves measure their text stands in the text.** -/
theorem Tree.Parsed.stands {t : Tree} (h : t.Parsed lang (.atPositions text)) (enter : Node → Bool) :
    ∀ n ∈ t.nodesWithin lang enter, n.Stands text := by
  refine h.paid.1.forall_nodesWithin h.aligned ⟨[], Text.At.origin text⟩ ?_ enter
  rintro s ⟨hs, haligned⟩ hcuts
  obtain ⟨after, ⟨rest, htext⟩, hstop⟩ := hs.cuts_stop hcuts haligned
  obtain ⟨front, hat⟩ := hcuts
  obtain ⟨size, spans, hspans, -⟩ := hs.spans_eq
  rw [Tree.Aligned, hspans] at haligned
  have hfirst : Cutting.Measures text s.offset.bytes (s.tree.padding, size) := haligned.1
  obtain ⟨pad, own, ⟨back, hbegins⟩, hmeasure⟩ := hfirst.of_at hat
  have hpadding : s.tree.padding = Extent.ofText pad := congrArg Prod.fst hmeasure
  have hstart : s.offset + s.tree.padding = Extent.ofText (front ++ pad) := by
    rw [hat.2, hpadding, Extent.ofText_append]
  have hsum : s.offset + s.tree.padding + s.tree.size = Extent.ofText after := by
    rw [← hstop, Tree.totalSize, Extent.add_assoc]
  -- the node ends where the leaves do, which is not before it begins
  have hle : Text.byteLength (front ++ pad) ≤ Text.byteLength after := by
    rw [← Extent.bytes_ofText after, ← hsum, hstart, Extent.bytes_add, Extent.bytes_ofText]
    exact Nat.le_add_right _ _
  rw [List.append_assoc (front ++ pad)] at hbegins
  obtain ⟨body, rfl⟩ := Text.exists_append_of_byteLength_le (htext.trans hbegins.symm) hle
  exact ⟨front ++ pad, body, ⟨rest, htext⟩, hstart, hsum⟩

namespace Document

/-- **Positions stay right under edits.**  For a document reached by edits from any text, both ends of
every node of its tree are positions of the text as it now is: its row counts the line breaks before
the offset, and its column the bytes behind the last of them.  So they are the points that parsing the
text anew gives for the same offset. -/
theorem Reached.node_points {text : List Char} {d : Document} (h : Reached Harneet.language text d) :
    ∀ n ∈ d.tree.nodes Harneet.language, ∀ p, p = n.start ∨ p = n.stop →
      (∃ front, front <+: d.text ∧ p.bytes = Text.byteLength front
        ∧ p.point = ⟨front.count '\n', Text.byteLength (Text.lastLine front)⟩)
      ∧ ∀ m ∈ (Harneet.language.parse d.text).nodes Harneet.language,
        ∀ p', p' = m.start ∨ p' = m.stop → p'.bytes = p.bytes → p'.point = p.point := by
  intro n hn p hp
  have hparsed := h.parsed_of_stable Harneet.orderly
    (Cutting.stable_atPositions Harneet.orderly Harneet.lossless)
  have hanew : (Harneet.language.parse d.text).Parsed Harneet.language (.atPositions d.text) :=
    Language.parsed_parse Harneet.orderly
      (Cutting.suits_atPositions Harneet.orderly Harneet.lossless d.text)
  obtain ⟨front, hbegins, hbytes, hpoint⟩ := (hparsed.stands _ n hn).points p hp
  refine ⟨⟨front, hbegins, hbytes, hpoint⟩, fun m hm p' hp' hsame => ?_⟩
  obtain ⟨front', hbegins', hbytes', hpoint'⟩ :=
    (hanew.stands _ m hm).points p' hp'
  obtain ⟨rest, hrest⟩ := hbegins
  obtain ⟨rest', hrest'⟩ := hbegins'
  obtain ⟨rfl, -⟩ := Text.append_inj_of_byteLength (hrest'.trans hrest.symm)
    (by rw [← hbytes', hsame, hbytes])
  rw [hpoint', hpoint]

/-- The document of an identifier behind a carriage return and a line separator, which are no line breaks
here, once a line break has been written before them. -/
theorem Reached.node_points_separated : ∃ d, Reached Harneet.language ['x', '\r', '\u2028', 'y'] d
    ∧ d.text = ['x', '\n', '\r', '\u2028', 'y']
    ∧ ∀ n ∈ d.tree.nodes Harneet.language, ∀ p, p = n.start ∨ p = n.stop →
      (∃ front, front <+: d.text ∧ p.bytes = Text.byteLength front
        ∧ p.point = ⟨front.count '\n', Text.byteLength (Text.lastLine front)⟩)
      ∧ ∀ m ∈ (Harneet.language.parse d.text).nodes Harneet.language,
        ∀ p', p' = m.start ∨ p' = m.stop → p'.bytes = p.bytes → p'.point = p.point := by
  obtain ⟨d, hedit, htext, -⟩ := exists_edit_append Harneet.language
    (show (Document.ofText Harneet.language ['x', '\r', '\u2028', 'y']).text
      = ['x'] ++ [] ++ ['\r', '\u2028', 'y'] from rfl) ['\n']
  have hreached : Reached Harneet.language ['x', '\r', '\u2028', 'y'] d := by
    have hsteps := (@Reached.ofText Harneet.language ['x', '\r', '\u2028', 'y']).edit
      (Text.byteLength ['x']) (Text.byteLength (['x'] ++ [])) ['\n']
    rw [hedit] at hsteps
    exact hsteps
  exact ⟨d, hreached, htext, Reached.node_points hreached⟩

end Document

end SyntaxKit
