import SyntaxKit.Proofs.Document.Edit
import SyntaxKit.Proofs.Parse.Parsed

/-!
# The tree of a document

A document is reached from a text by edits.  However it was reached, its tree is one that parsing hands
out for its text: what an edit does not mark as changed comes to lie where the new text may be cut, for
every way to cut texts under which that is so (`Cutting.Stable`, `Document.Reached.parsed_of_stable`).
Cutting between characters is one (`Cutting.stable_betweenCharacters`), since an edit that succeeds moves
leaves by whole characters.
-/

namespace SyntaxKit

variable {lang : Language}

namespace Document

/-! ## Changes of a text -/

theorem ordered_change (before old after new : List Char) :
    (change (before ++ old ++ after) (Text.byteLength before) (Text.byteLength (before ++ old))
      new).Ordered where
  old := by simp [change]
  new := by simp [change]

/-- Where the boundary behind a prefix of the old text comes to lie there is one of the new text. -/
theorem isBoundary_change {before old after : List Char} (new : List Char) {y : Nat}
    (h : Utf8.IsBoundary (Utf8.encode (before ++ old ++ after)) y) :
    (y ≤ Text.byteLength before → Utf8.IsBoundary (Utf8.encode (before ++ new ++ after)) y)
      ∧ Utf8.IsBoundary (Utf8.encode (before ++ new ++ after))
        (Text.byteLength before + Text.byteLength new + (y - Text.byteLength (before ++ old))) := by
  obtain ⟨front, back, htext, rfl⟩ := (Utf8.isBoundary_encode_iff _ _).mp h
  simp only [Utf8.isBoundary_encode_iff]
  refine ⟨fun hle => ?_, ?_⟩
  · rw [List.append_assoc] at htext
    obtain ⟨mid, rfl⟩ := Text.exists_append_of_byteLength_le htext hle
    exact ⟨front, mid ++ new ++ after, by simp, rfl⟩
  · rcases Nat.le_total (Text.byteLength front) (Text.byteLength (before ++ old)) with hin | hbehind
    · -- inside of what is replaced
      refine ⟨before ++ new, after, rfl, ?_⟩
      rw [Nat.sub_eq_zero_of_le hin, Text.byteLength_append, Nat.add_zero]
    · obtain ⟨mid, rfl⟩ := Text.exists_append_of_byteLength_le htext.symm hbehind
      obtain rfl : after = mid ++ back := by simpa using htext
      refine ⟨before ++ new ++ mid, back, by simp, ?_⟩
      simp only [Text.byteLength_append]
      omega

/-! ## Cutting texts that change -/

end Document

namespace Cutting

/-- A way to cut every text that reading keeps to, and under which a leaf that an edit does not touch
may lie where it comes to lie. -/
structure Stable (lang : Language) (cut : List Char → Cutting) : Prop where
  suits : ∀ text, (cut text).Suits lang text
  moves : ∀ {before old after y s} (new : List Char), (cut (before ++ old ++ after)).lies y s →
    (Document.change (before ++ old ++ after) (Text.byteLength before)
      (Text.byteLength (before ++ old)) new).Moves (cut (before ++ new ++ after)).lies 0 y s

/-- Between characters of the old text a leaf comes to lie between characters of the new one. -/
theorem stable_betweenCharacters (lang : Language) : Stable lang betweenCharacters where
  suits := suits_betweenCharacters lang
  moves := by
    rintro before old after y s new ⟨hstart, hstop⟩
    obtain ⟨hstartLow, hstartHigh⟩ := Document.isBoundary_change new hstart
    obtain ⟨hstopLow, hstopHigh⟩ := Document.isBoundary_change new hstop
    simp only [Extent.bytes_add] at hstartLow hstartHigh hstopLow hstopHigh
    simp only [Change.Moves, Document.change, betweenCharacters, atOffsets, Tree.Ends, Nat.zero_add,
      Extent.bytes_add]
    refine ⟨fun hle => ⟨hstartLow (by omega), hstopLow (by omega)⟩, fun hle hplace => ?_⟩
    rcases hplace with hbehind | hnone
    · have hstart' := Nat.sub_add_comm (n := y) (m := s.1.bytes) hbehind
      have hstop' := Nat.sub_add_comm (n := y) (m := s.1.bytes + s.2.bytes) hbehind
      rw [hstart'] at hstartHigh
      rw [hstop'] at hstopHigh
      rw [← Nat.add_assoc] at hstartHigh hstopHigh
      exact ⟨hstartHigh, hstopHigh⟩
    · obtain ⟨hpadding, hsize⟩ := Nat.add_eq_zero_iff.mp hnone
      rw [hpadding, hsize]
      simp only [hpadding, Nat.add_zero] at hstartHigh
      exact ⟨hstartHigh, hstartHigh⟩

end Cutting

namespace Document

/-! ## Documents -/

/-- A document is reached from a text, as it is or as that of a file, by edits; those that are
refused change nothing. -/
inductive Reached (lang : Language) (text : List Char) : Document → Prop
  | ofText : Reached lang text (Document.ofText lang text)
  | ofFile (path : Path) : Reached lang text (Document.ofFile lang path text)
  | edit {d : Document} (before : Reached lang text d) (start oldStop : Nat) (new : List Char) :
    Reached lang text (d.edit lang start oldStop new).1

@[simp] theorem tree_ofText (text : List Char) :
    (Document.ofText lang text).tree = lang.parse text := by
  rw [ofText]

@[simp] theorem tree_ofFile (path : Path) (text : List Char) :
    (Document.ofFile lang path text).tree = lang.parse text := by
  rw [ofFile]

/-- **The tree of a document is one that parsing hands out for its text**, however many edits have led
to it. -/
theorem Reached.parsed_of_stable (hlang : lang.Orderly) {cut : List Char → Cutting}
    (hcut : Cutting.Stable lang cut) {text : List Char} {d : Document} (h : Reached lang text d) :
    d.tree.Parsed lang (cut d.text) := by
  induction h with
  | ofText =>
    rw [tree_ofText]
    exact Language.parsed_parse hlang (hcut.suits text)
  | ofFile path =>
    rw [tree_ofFile]
    exact Language.parsed_parse hlang (hcut.suits text)
  | @edit d before start oldStop new ih =>
    by_cases hstretch : Replaceable d.text start oldStop
    · obtain ⟨front, old, back, htext, rfl, rfl⟩ := hstretch.exists_append
      obtain ⟨d', hedit, htext', htree, -⟩ := exists_edit_append lang htext new
      rw [hedit, htree, Language.reparse, htext', htext]
      rw [htext] at ih
      refine Language.parsed_parseWith hlang (hcut.suits _) fun t ht => ?_
      obtain rfl := Option.some.inj ht
      have hlands : (change (front ++ old ++ back) (Text.byteLength front)
          (Text.byteLength (front ++ old)) new).Lands (cut (front ++ new ++ back)).lies 0 d.tree := by
        refine ih.aligned.move ih.paid.1 fun y s _ hs => ?_
        rw [Nat.zero_add] at hs ⊢
        exact hcut.moves new hs
      exact ⟨ih.paid.1.edit (ordered_change front old back new) hlands, ih.marked.edit _⟩
    · obtain ⟨e, hrefused, -⟩ := stretch_eq_error hstretch
      have hedit : d.edit lang start oldStop new = (d, some e) := by
        rw [Document.edit, replace, hrefused]
      rw [hedit]
      exact ih

/-- The leaves of a document begin and end between the characters of its text. -/
theorem Reached.parsed (hlang : lang.Orderly) {text : List Char} {d : Document}
    (h : Reached lang text d) : d.tree.Parsed lang (.betweenCharacters d.text) :=
  h.parsed_of_stable hlang (Cutting.stable_betweenCharacters lang)

end Document

end SyntaxKit
