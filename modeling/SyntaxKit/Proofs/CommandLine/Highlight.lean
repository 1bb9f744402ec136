import SyntaxKit.Proofs.Query.Names
import SyntaxKit.Proofs.Text.Index
import SyntaxKit.CommandLine.Run

/-!
# What highlighting a file prints

A span whose ends are between characters of a text cuts a slice out of it, and is printed as one line that
quotes the slice (`CommandLine.isLineOf_spanLine`).  The quotes hold no line break, since those are
written as escapes, and neither does the name of a capture.
-/

namespace SyntaxKit

/-! ## Slices of a text -/

namespace Text

/-- The bytes of a text from one offset to another are those of a slice of it. -/
structure IsSlice (text : List Char) (first last : Nat) (slice : List Char) : Prop where
  split : ∃ before after, text = before ++ slice ++ after ∧ byteLength before = first
    ∧ byteLength (before ++ slice) = last

/-- Between two boundaries there is a slice. -/
theorem exists_isSlice {text : List Char} {first last : Nat} (hle : first ≤ last)
    (hfirst : Utf8.IsBoundary (Utf8.encode text) first)
    (hlast : Utf8.IsBoundary (Utf8.encode text) last) : ∃ slice, IsSlice text first last slice := by
  obtain ⟨before, rest, rfl, rfl⟩ := (Utf8.isBoundary_encode_iff _ _).mp hfirst
  obtain ⟨front, after, htext, rfl⟩ := (Utf8.isBoundary_encode_iff _ _).mp hlast
  obtain ⟨slice, rfl⟩ := exists_append_of_byteLength_le htext.symm hle
  exact ⟨slice, before, after, htext, rfl, rfl⟩

/-- Cutting a slice out of a text does not fail. -/
theorem IsSlice.take?_eq {text slice : List Char} {first last : Nat}
    (h : IsSlice text first last slice) :
    take? ((Source.ofText text).suffixAt first) (last - first) = some slice := by
  obtain ⟨before, after, rfl, rfl, rfl⟩ := h.split
  rw [byteLength_append, Nat.add_sub_cancel_left, List.append_assoc, Source.suffixAt_ofText,
    take?_byteLength]

/-! ## Texts without line breaks -/

theorem newline_not_mem_toDigits (base n : Nat) : '\n' ∉ Nat.toDigits base n := by
  have hdigit : ∀ k, Nat.digitChar k ≠ '\n' := by
    intro k
    rcases Nat.lt_or_ge k 16 with h | h
    · exact (show ∀ k < 16, Nat.digitChar k ≠ '\n' by decide) k h
    · have hstar : Nat.digitChar k = '*' := by
        rw [Nat.digitChar]
        iterate 16 rw [if_neg (by omega)]
      rw [hstar]
      decide
  have hcore : ∀ fuel n acc, '\n' ∉ acc → '\n' ∉ Nat.toDigitsCore base fuel n acc := by
    intro fuel
    induction fuel with
    | zero => exact fun _ _ h => h
    | succ fuel ih =>
      intro n acc h
      have hcons : '\n' ∉ Nat.digitChar (n % base) :: acc := by
        simp [h, (hdigit (n % base)).symm]
      rw [Nat.toDigitsCore]
      split
      · exact hcons
      · exact ih _ _ hcons
  exact hcore _ _ _ (by simp)

/-- A quoted text holds no line break. -/
theorem newline_not_mem_quote (t : List Char) : '\n' ∉ quote t := by
  have hcharacter : ∀ c, '\n' ∉ quoteCharacter c := by
    intro c
    have hhex := newline_not_mem_toDigits 16 c.toNat
    rw [quoteCharacter]
    split
    · decide
    · split
      · decide
      · split
        · decide
        · split
          · decide
          · next hnewline =>
            split
            · simp [Ne.symm hnewline]
            · split
              · simp [hexDigits, hhex]
              · simp [Ne.symm hnewline]
  simp [quote, hcharacter]

end Text

namespace CommandLine

/-- A line of output is that of a span: it tells where the span begins and ends and under which name it
was captured, quotes the slice of the text between these ends, and holds no line break but the one at its
end. -/
def IsLineOf (text : List Char) (s : HighlightSpan) (line : List Char) : Prop :=
  ∃ slice shown, Text.IsSlice text s.start.bytes s.stop.bytes slice
    ∧ shown = (shownPoint s.start.point).toList ++ '-' :: (shownPoint s.stop.point).toList
        ++ ' ' :: s.capture.toList ++ ' ' :: Text.quote slice
    ∧ '\n' ∉ shown ∧ line = shown ++ ['\n']

theorem newline_not_mem_shownPoint (p : Point) : '\n' ∉ (shownPoint p).toList := by
  simp [shownPoint, Text.newline_not_mem_toDigits]

/-- **A span whose ends are between characters is printed as one line.** -/
theorem isLineOf_spanLine {text : List Char} {s : HighlightSpan}
    (hle : s.start.bytes ≤ s.stop.bytes)
    (hstart : Utf8.IsBoundary (Utf8.encode text) s.start.bytes)
    (hstop : Utf8.IsBoundary (Utf8.encode text) s.stop.bytes)
    (hcapture : Query.Reading.IsName s.capture.toList) :
    IsLineOf text s (spanLine (Source.ofText text) s).toList := by
  obtain ⟨slice, hslice⟩ := Text.exists_isSlice hle hstart hstop
  have hname : '\n' ∉ s.capture.toList := fun h => absurd (hcapture _ h) (by decide)
  refine ⟨slice, _, hslice, rfl, ?_, ?_⟩
  · simp [newline_not_mem_shownPoint, hname, Text.newline_not_mem_quote]
  · simp [spanLine, hslice.take?_eq, String.toList_append]

end CommandLine

end SyntaxKit
