import SyntaxKit.Proofs.Text.Index
import SyntaxKit.Proofs.Tree.Cuts
import SyntaxKit.Lexer.Token

/-!
# Tokens begin and end between characters

Reading that is started between two characters of a text goes on by whole characters: wherever the
automaton begins a token, recognises one or stops, is between characters as well (`Scan.Within`), and
so is every end of a stretch that is skipped.  Hence both ends of the token that is read are between
characters (`Lexer.aligned_next`), whatever the automaton and whatever the rows and columns with which
reading was started.
-/

namespace SyntaxKit

variable {lang : Language} {text : List Char}

namespace Utf8

/-- The boundaries of a text, and what stands behind each of them. -/
theorem isBoundary_iff_suffixAt {offset : Nat} : IsBoundary (encode text) offset ↔
    ∃ front, text = front ++ (Source.ofText text).suffixAt offset
      ∧ Text.byteLength front = offset := by
  rw [isBoundary_encode_iff]
  constructor
  · rintro ⟨front, back, rfl, rfl⟩
    exact ⟨front, by rw [Source.suffixAt_ofText], rfl⟩
  · rintro ⟨front, hfront, hlength⟩
    exact ⟨front, _, hfront, hlength⟩

theorem isBoundary_zero (text : List Char) : IsBoundary (encode text) 0 :=
  (isBoundary_encode_iff text 0).mpr ⟨[], text, rfl, rfl⟩

/-- Behind the character at a boundary there is another one. -/
theorem IsBoundary.push {pos : Extent} {c : Char} {rest : List Char}
    (h : IsBoundary (encode text) pos.bytes)
    (hc : (Source.ofText text).suffixAt pos.bytes = c :: rest) :
    IsBoundary (encode text) (pos.push c).bytes := by
  obtain ⟨front, hfront, hlength⟩ := isBoundary_iff_suffixAt.mp h
  rw [isBoundary_encode_iff]
  refine ⟨front ++ [c], rest, ?_, ?_⟩
  · rw [List.append_assoc, List.singleton_append, ← hc]
    exact hfront
  · simp [Extent.bytes_push, hlength, Text.byteLength]

/-- A stretch that ends at a boundary, or before it begins, is cut off at a boundary. -/
theorem IsBoundary.max {bytes : List UInt8} {a b : Nat} (ha : IsBoundary bytes a)
    (hb : IsBoundary bytes b) : IsBoundary bytes (a + (b - a)) := by
  rcases Nat.le_total a b with h | h
  · rwa [Nat.add_sub_cancel' h]
  · rwa [Nat.sub_eq_zero_of_le h, Nat.add_zero]

end Utf8

open Utf8

/-- Wherever a run of the automaton that was started at an offset has come is between characters, and
the token does not begin before that offset. -/
structure Scan.Within (text : List Char) (offset : Nat) (r : Scan) : Prop where
  behind : offset ≤ r.start.bytes
  start : IsBoundary (encode text) r.start.bytes
  stop : IsBoundary (encode text) r.stop.bytes
  found : ∀ x, r.found = some x → IsBoundary (encode text) x.2.bytes

namespace Lexer

/-- What is recognised on arrival ends at that place. -/
theorem within_arrive {s : LexState} {pos : Extent} {found : Option (Symbol × Extent)}
    (hpos : IsBoundary (encode text) pos.bytes)
    (hfound : ∀ x, found = some x → IsBoundary (encode text) x.2.bytes) :
    ∀ x, arrive s pos found = some x → IsBoundary (encode text) x.2.bytes := by
  intro x hx
  rw [arrive] at hx
  split at hx
  · obtain rfl := Option.some.inj hx
    exact hpos
  · exact hfound x hx

theorem within_run (lang : Language) {offset : Nat} (rest : List Char) :
    ∀ (front : List Char) {state : Nat} {start pos : Extent} {found : Option (Symbol × Extent)},
      text = front ++ rest → Text.byteLength front = pos.bytes → offset ≤ start.bytes →
      start.bytes ≤ pos.bytes → IsBoundary (encode text) start.bytes →
      (∀ x, found = some x → IsBoundary (encode text) x.2.bytes) →
      (run lang state rest start pos found).Within text offset := by
  induction rest with
  | nil =>
    intro front state start pos found htext hpos hbehind hle hstart hfound
    have hstop : IsBoundary (encode text) pos.bytes :=
      (isBoundary_encode_iff text _).mpr ⟨front, [], htext, hpos⟩
    have hfound' := within_arrive (s := lang.lexStates.getD state default) hstop hfound
    rw [run]
    split
    · exact ⟨hbehind, hstart, hstop, within_arrive hstop hfound'⟩
    · exact ⟨hbehind, hstart, hstop, hfound'⟩
  | cons c rest ih =>
    intro front state start pos found htext hpos hbehind hle hstart hfound
    have hstop : IsBoundary (encode text) pos.bytes :=
      (isBoundary_encode_iff text _).mpr ⟨front, c :: rest, htext, hpos⟩
    have hfound' := within_arrive (s := lang.lexStates.getD state default) hstop hfound
    have htext' : text = front ++ [c] ++ rest := by rw [htext, List.append_assoc]; rfl
    have hpos' : Text.byteLength (front ++ [c]) = (pos.push c).bytes := by
      simp [Extent.bytes_push, hpos, Text.byteLength]
    have hnext : pos.bytes ≤ (pos.push c).bytes := by
      rw [Extent.bytes_push]
      exact Nat.le_add_right ..
    rw [run]
    split
    · exact ⟨hbehind, hstart, hstop, hfound'⟩
    · split
      · exact ih _ htext' hpos' (Nat.le_trans hbehind (Nat.le_trans hle hnext)) (Nat.le_refl _)
          ((isBoundary_encode_iff text _).mpr ⟨front ++ [c], rest, htext', hpos'⟩) hfound'
      · exact ih _ htext' hpos' hbehind (Nat.le_trans hle hnext) hstart hfound'

/-- **A run that is started between characters stays between characters.** -/
theorem within_scan (lang : Language) {pos : Extent}
    (hpos : IsBoundary (encode text) pos.bytes) (state : Nat) :
    (scan lang (Source.ofText text) state pos).Within text pos.bytes := by
  obtain ⟨front, hfront, hlength⟩ := isBoundary_iff_suffixAt.mp hpos
  have hplain : (run lang state _ pos pos none).Within text pos.bytes :=
    within_run lang _ front hfront hlength (Nat.le_refl _) (Nat.le_refl _) hpos (by simp)
  rw [scan]
  split
  · next c rest hzero hsuffix =>
    split
    · have hpush := hpos.push hsuffix
      have hpos' : Text.byteLength (front ++ [c]) = (pos.push c).bytes := by
        simp [Extent.bytes_push, hlength, Text.byteLength]
      refine within_run lang rest (front ++ [c]) ?_ hpos' ?_ (Nat.le_refl _) hpush (by simp)
      swap
      · rw [Extent.bytes_push]
        exact Nat.le_add_right ..
      rw [List.append_assoc, List.singleton_append, ← hsuffix]
      exact hfront
    · rwa [hsuffix] at hplain
  · exact hplain

/-- A stretch behind an offset, both ends of which are between characters. -/
def Ends (text : List Char) (offset : Nat) (start stop : Extent) : Prop :=
  offset ≤ start.bytes ∧ IsBoundary (encode text) start.bytes ∧ IsBoundary (encode text) stop.bytes

theorem within_skip {offset : Nat} (fuel : Nat) : ∀ {s : Skipped} {pos : Extent} {furthest : Nat},
    Ends text offset s.start s.stop → IsBoundary (encode text) pos.bytes →
    ∃ s' furthest', skip lang (Source.ofText text) fuel s pos furthest = (.garbage s', furthest')
      ∧ Ends text offset s'.start s'.stop := by
  induction fuel with
  | zero => exact fun {s _ furthest} hs _ => ⟨s, furthest, rfl, hs⟩
  | succ fuel ih =>
    intro s pos furthest hs hpos
    have hscan := within_scan lang hpos (lang.lexState ParseState.recovering)
    rw [skip]
    simp only
    split
    · exact ⟨s, _, rfl, hs⟩
    · split
      · split
        · exact ⟨s, _, rfl, hs⟩
        · next c rest hsuffix =>
          have hpush := hscan.stop.push hsuffix
          exact ih ⟨hs.1, hs.2.1, hpush⟩ hpush
      · exact ih ⟨hs.1, hs.2.1, hscan.stop⟩ hscan.stop

theorem within_beginSkip (lang : Language) {offset : Nat} {r : Scan} (hr : r.Within text offset) (furthest : Nat) :
    ∃ s furthest', beginSkip lang (Source.ofText text) r furthest = (.garbage s, furthest')
      ∧ Ends text offset s.start s.stop := by
  rw [beginSkip]
  simp only
  split
  · split
    · exact ⟨_, _, rfl, hr.behind, hr.start, hr.start⟩
    · next c rest hsuffix =>
      have hpush := hr.stop.push hsuffix
      exact within_skip _ ⟨hr.behind, hr.start, hpush⟩ hpush
  · exact within_skip _ ⟨hr.behind, hr.start, hr.stop⟩ hr.stop

/-- What is read is behind an offset, and both of its ends are between characters. -/
def Reading.Within (text : List Char) (offset : Nat) : Reading → Prop
  | .token _ start stop => Ends text offset start stop
  | .garbage s => Ends text offset s.start s.stop

theorem within_read (lang : Language) {pos : Extent}
    (hpos : IsBoundary (encode text) pos.bytes) (state : ParseState) :
    (read lang (Source.ofText text) state pos).1.Within text pos.bytes := by
  have hfirst := within_scan lang hpos (lang.lexState state)
  have hsecond : (if state = ParseState.recovering then
        scan lang (Source.ofText text) (lang.lexState state) pos
      else scan lang (Source.ofText text) (lang.lexState ParseState.recovering) pos).Within text
        pos.bytes := by
    split
    · exact hfirst
    · exact within_scan lang hpos _
  rw [read]
  simp only
  generalize (if state = ParseState.recovering then
      scan lang (Source.ofText text) (lang.lexState state) pos
    else scan lang (Source.ofText text) (lang.lexState ParseState.recovering) pos) = r at hsecond ⊢
  split
  · next hfound => exact ⟨hfirst.behind, hfirst.start, hfirst.found _ hfound⟩
  · split
    · next hfound => exact ⟨hsecond.behind, hsecond.start, hsecond.found _ hfound⟩
    · obtain ⟨s, furthest, heq, hs⟩ := within_beginSkip lang hsecond
        (max ((scan lang (Source.ofText text) (lang.lexState state) pos).stop.bytes + 1)
          (r.stop.bytes + 1))
      rw [heq]
      exact hs

/-- **A token that is read between characters begins and ends between characters.** -/
theorem aligned_next {pos : Extent} (hpos : IsBoundary (encode text) pos.bytes)
    (state : ParseState) : (Tree.token (next lang (Source.ofText text) state pos)).Aligned
      (Tree.Ends (IsBoundary (encode text))) pos.bytes := by
  have hread := within_read lang hpos state
  have hends : ∀ {k : Token} {start stop : Extent}, k.padding = start - pos → k.size = stop - start →
      Ends text pos.bytes start stop →
      (Tree.token k).Aligned (Tree.Ends (IsBoundary (encode text))) pos.bytes := by
    rintro k start stop hpadding hsize ⟨hbehind, hstart, hstop⟩
    rw [Tree.aligned_token, hpadding, hsize, Tree.Ends, Extent.bytes_add, Extent.bytes_sub,
      Extent.bytes_sub, ← Nat.add_assoc, Nat.add_sub_cancel' hbehind]
    exact ⟨hstart, hstart.max hstop⟩
  rw [next]
  split
  · next s furthest heq =>
    rw [heq] at hread
    exact hends rfl rfl hread
  · next symbol start stop furthest heq =>
    rw [heq] at hread
    exact hends rfl rfl hread

end Lexer

end SyntaxKit
