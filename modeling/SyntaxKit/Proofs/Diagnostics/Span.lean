import SyntaxKit.Diagnostics.SyntaxError
import SyntaxKit.Proofs.Text.Extent

/-!
# Spans for display

A span is clamped into its text before it is shown.  What comes out is a span that is not empty and
lies inside the text (`Span.inside_display`), and such a span is shown as it is
(`Span.display_of_inside`).  So clamping is a projection onto the spans inside the text.

Making a span at least one byte wide counts one further than its start, which fails for the largest
offset.  Clamping comes first, and a clamped start has a byte of the text behind it
(`Span.widen?_clamped`).
-/

namespace SyntaxKit

namespace Span

variable {first last length : Nat} {text : List Char}

/-- A span that is not empty and lies inside a text of the given length. -/
structure Inside (length : Nat) (span : Nat × Nat) : Prop where
  nonempty : span.1 < span.2
  within : span.2 ≤ length

/-- What is shown lies inside the text. -/
theorem inside_display (first last : Nat) (h : 0 < length) :
    Inside length (display first last length) where
  nonempty := by
    simp only [display]
    omega
  within := by
    simp only [display]
    omega

/-- A span inside the text is shown where it is. -/
theorem display_of_inside (h : Inside length (first, last)) :
    display first last length = (first, last) := by
  obtain ⟨hnonempty, hwithin⟩ := h
  dsimp only at hnonempty hwithin
  rw [display, Nat.min_eq_left (by omega), Nat.min_eq_left hwithin, Nat.max_eq_left hnonempty]

/-- A start inside the text is kept, wherever the span ends. -/
theorem display_fst (last : Nat) (h : first < length) : (display first last length).1 = first :=
  Nat.min_eq_left (by omega)

/-- **A span that is clamped first can always be widened**, if the text is no longer than offsets
can count. -/
theorem widen?_clamped (first last : Nat) (h : 0 < length) (hcountable : length ≤ maxOffset) :
    widen? (min first (length - 1)) (min last length) = some (display first last length) := by
  have hstart : min first (length - 1) < maxOffset := by omega
  rw [widen?, if_pos hstart, display]

/-- **What is shown stays inside the text.**  For a text that is not empty, and any two offsets in
any order, clamping and widening go through without counting too far.  The result is a span that is
not empty and lies inside the text; a span that is such already is shown as it is, a start inside
the text is kept, and what is shown once is shown the same when it is clamped again. -/
theorem display_spec (hne : text ≠ []) (hcountable : Text.byteLength text ≤ maxOffset)
    (first last : Nat) :
    ∃ start stop, display first last (Text.byteLength text) = (start, stop)
      ∧ widen? (min first (Text.byteLength text - 1)) (min last (Text.byteLength text))
        = some (start, stop)
      ∧ start < stop ∧ stop ≤ Text.byteLength text
      ∧ (first < last → last ≤ Text.byteLength text → (start, stop) = (first, last))
      ∧ (first < Text.byteLength text → start = first)
      ∧ display start stop (Text.byteLength text) = (start, stop) := by
  have hpos : 0 < Text.byteLength text :=
    Nat.pos_of_ne_zero fun hzero => hne (Text.byteLength_eq_zero.mp hzero)
  have hinside := inside_display first last hpos
  refine ⟨_, _, rfl, widen?_clamped first last hpos hcountable, hinside.nonempty, hinside.within,
    fun hlt hle => display_of_inside ⟨hlt, hle⟩, display_fst last, display_of_inside hinside⟩

/-- Offsets far behind a text of one character of two bytes, and in the wrong order. -/
theorem display_spec_reversed : ['é'] ≠ [] ∧ Text.byteLength ['é'] ≤ maxOffset
    ∧ ∃ start stop, display maxOffset 7 (Text.byteLength ['é']) = (start, stop)
      ∧ widen? (min maxOffset (Text.byteLength ['é'] - 1)) (min 7 (Text.byteLength ['é']))
        = some (start, stop)
      ∧ start < stop ∧ stop ≤ Text.byteLength ['é'] := by
  have hne : ['é'] ≠ [] := by simp
  have hcountable : Text.byteLength ['é'] ≤ maxOffset := by decide
  obtain ⟨start, stop, hdisplay, hwiden, hlt, hle, -⟩ := display_spec hne hcountable maxOffset 7
  exact ⟨hne, hcountable, start, stop, hdisplay, hwiden, hlt, hle⟩

end Span

end SyntaxKit
