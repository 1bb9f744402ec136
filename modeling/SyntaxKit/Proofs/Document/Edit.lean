import SyntaxKit.Document
import SyntaxKit.Proofs.Text.Index

/-!
# Edits of a document

An edit names a stretch of the text by two byte offsets, while the text is changed at indices of
characters.  The stretch can be replaced if the offsets are in order, within the text and between
characters (`Document.Replaceable`).  Then the edit is a splice of the bytes; otherwise it is
refused before anything is changed (`Document.edit_spec`).
-/

namespace SyntaxKit.Document

variable (lang : Language)

/-- The stretches of a text that can be replaced, in terms of its bytes. -/
def Replaceable (text : List Char) (start oldStop : Nat) : Prop :=
  start ≤ oldStop ∧ oldStop ≤ (Utf8.encode text).length
    ∧ Utf8.IsBoundary (Utf8.encode text) start ∧ Utf8.IsBoundary (Utf8.encode text) oldStop

/-! ## Finding a stretch -/

theorem boundaryIndex_append (front back : List Char) :
    boundaryIndex (front ++ back) (Text.byteLength front) = .ok front.length := by
  have hoffset := (Text.offsetOf_indexOf_eq_iff _ _).mpr ⟨front, back, rfl, rfl⟩
  rw [boundaryIndex, if_pos hoffset, Text.indexOf_byteLength]

theorem boundaryIndex_eq_error {text : List Char} {offset : Nat}
    (h : ¬ Utf8.IsBoundary (Utf8.encode text) offset) :
    boundaryIndex text offset = .error (.insideCharacter offset) := by
  rw [Utf8.isBoundary_encode_iff, ← Text.offsetOf_indexOf_eq_iff] at h
  rw [boundaryIndex, if_neg h]

/-- A stretch that can be replaced divides the text. -/
theorem Replaceable.exists_append {text : List Char} {start oldStop : Nat}
    (h : Replaceable text start oldStop) :
    ∃ before old after, text = before ++ old ++ after ∧ Text.byteLength before = start
      ∧ Text.byteLength (before ++ old) = oldStop := by
  obtain ⟨hordered, -, hstart, hstop⟩ := h
  obtain ⟨before, rest, rfl, rfl⟩ := (Utf8.isBoundary_encode_iff _ _).mp hstart
  obtain ⟨front, after, htext, rfl⟩ := (Utf8.isBoundary_encode_iff _ _).mp hstop
  obtain ⟨old, rfl⟩ := Text.exists_append_of_byteLength_le htext.symm hordered
  exact ⟨before, old, after, htext, rfl, rfl⟩

/-- Every way of dividing a text gives a stretch, found at the indices of its ends. -/
theorem stretch_append (before old after : List Char) :
    stretch (before ++ old ++ after) (Text.byteLength before) (Text.byteLength (before ++ old))
      = .ok (before.length, (before ++ old).length) := by
  have hfirst := boundaryIndex_append before (old ++ after)
  have hlast := boundaryIndex_append (before ++ old) after
  have hinside : (Text.byteLength (before ++ old) < Text.byteLength before
      || Text.byteLength (before ++ old ++ after) < Text.byteLength (before ++ old)) = false := by
    simp
  rw [← List.append_assoc] at hfirst
  rw [stretch, if_neg (by rw [hinside]; exact Bool.false_ne_true), hfirst, hlast]

/-- A stretch that cannot be replaced is refused: it is outside of the text if its ends are not in
order or behind the text, and else its first end that is inside a character is named. -/
theorem stretch_eq_error {text : List Char} {start oldStop : Nat}
    (h : ¬ Replaceable text start oldStop) :
    ∃ e, stretch text start oldStop = .error e
      ∧ (e = .outside start oldStop (Utf8.encode text).length
          ∧ (oldStop < start ∨ (Utf8.encode text).length < oldStop)
        ∨ ∃ offset, e = .insideCharacter offset ∧ (offset = start ∨ offset = oldStop)
          ∧ ¬ Utf8.IsBoundary (Utf8.encode text) offset) := by
  rw [Utf8.length_encode]
  by_cases houtside : oldStop < start ∨ Text.byteLength text < oldStop
  · refine ⟨_, ?_, .inl ⟨rfl, houtside⟩⟩
    rw [stretch, if_pos (by simpa using houtside)]
  · have hstretch : stretch text start oldStop = _ := if_neg (by simpa using houtside)
    by_cases hstart : Utf8.IsBoundary (Utf8.encode text) start
    · have hstop : ¬ Utf8.IsBoundary (Utf8.encode text) oldStop := by
        intro hstop
        refine h ⟨?_, ?_, hstart, hstop⟩
        · omega
        · rw [Utf8.length_encode]
          omega
      obtain ⟨front, back, rfl, rfl⟩ := (Utf8.isBoundary_encode_iff _ _).mp hstart
      refine ⟨.insideCharacter oldStop, ?_, .inr ⟨_, rfl, .inr rfl, hstop⟩⟩
      rw [hstretch, boundaryIndex_append, boundaryIndex_eq_error hstop]
    · refine ⟨.insideCharacter start, ?_, .inr ⟨_, rfl, .inl rfl, hstart⟩⟩
      rw [hstretch, boundaryIndex_eq_error hstart]

/-! ## Replacing -/

/-- The middle of a text can be replaced: the new text is parsed with the marked tree at hand, and
the path is kept. -/
theorem exists_edit_append {d : Document} {before old after : List Char}
    (htext : d.text = before ++ old ++ after) (new : List Char) :
    ∃ d', d.edit lang (Text.byteLength before) (Text.byteLength (before ++ old)) new = (d', none)
      ∧ d'.text = before ++ new ++ after
      ∧ d'.tree = lang.reparse (d.tree.edit (change d.text (Text.byteLength before)
          (Text.byteLength (before ++ old)) new)) d'.text
      ∧ d'.path = d.path := by
  have hspliced : Text.insert (Text.remove d.text before.length (before ++ old).length)
      before.length new = before ++ new ++ after := by
    rw [htext, Text.remove, List.drop_left, List.append_assoc before old, List.take_left,
      Text.insert, List.take_left, List.drop_left]
  have hstretch := stretch_append before old after
  rw [← htext] at hstretch
  rw [edit, replace, hstretch]
  simp only [hspliced]
  generalize htree : lang.reparse _ _ = tree
  exact ⟨_, rfl, rfl, htree.symm, rfl⟩

/-- **An edit is an exact splice or nothing.**  It succeeds exactly if its offsets are in order,
within the text and at boundaries of the bytes of the text.  Then the bytes of the stretch are
replaced by those of the new text, the marked tree is parsed again with the new text, and the path
is kept.  Otherwise there is an error, and the document is the one that there was. -/
theorem edit_spec (d : Document) (start oldStop : Nat) (new : List Char) :
    ((d.edit lang start oldStop new).2 = none ↔
        start ≤ oldStop ∧ oldStop ≤ (Utf8.encode d.text).length
          ∧ Utf8.IsBoundary (Utf8.encode d.text) start
          ∧ Utf8.IsBoundary (Utf8.encode d.text) oldStop)
      ∧ match d.edit lang start oldStop new with
        | (d', none) =>
          Utf8.encode d'.text = (Utf8.encode d.text).take start ++ Utf8.encode new
              ++ (Utf8.encode d.text).drop oldStop
            ∧ d'.tree = lang.reparse (d.tree.edit (change d.text start oldStop new)) d'.text
            ∧ d'.path = d.path
        | (d', some _) => d' = d := by
  by_cases h : Replaceable d.text start oldStop
  · obtain ⟨before, old, after, htext, rfl, rfl⟩ := h.exists_append
    obtain ⟨d', hedit, htext', htree, hpath⟩ := exists_edit_append lang htext new
    rw [hedit]
    refine ⟨⟨fun _ => h, fun _ => rfl⟩, ?_, htree, hpath⟩
    have htake : (Utf8.encode d.text).take (Text.byteLength before) = Utf8.encode before := by
      rw [htext, List.append_assoc, Utf8.take_encode_byteLength]
    have hdrop : (Utf8.encode d.text).drop (Text.byteLength (before ++ old))
        = Utf8.encode after := by
      rw [htext, Utf8.encode_append, ← Utf8.length_encode, List.drop_left]
    rw [htext', htake, hdrop, Utf8.encode_append, Utf8.encode_append]
  · obtain ⟨e, hstretch, -⟩ := stretch_eq_error h
    have hedit : d.edit lang start oldStop new = (d, some e) := by
      rw [edit, replace, hstretch]
    rw [hedit]
    refine ⟨⟨fun hnone => ?_, fun hreplaceable => absurd hreplaceable h⟩, rfl⟩
    exact absurd hnone (Option.some_ne_none e)

end SyntaxKit.Document
