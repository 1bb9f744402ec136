import Mathlib.Data.List.Induction
import Mathlib.Tactic.Common
import SyntaxKit.Text.Source

/-!
# Extents as displacements

Extents are added like the stretches of text that they measure: `Extent.ofText_append` says that the
extent of two texts written one after the other is the sum of their extents, and
`Extent.ofText_sub` that subtracting takes a first part off again.  Addition is associative and has
`Extent.zero` on both sides, so that the extent of a sequence of stretches may be summed from either
end.

`Extent.point_ofText` says what the point of an extent is, and `Source.suffixAt_ofText` what a source
holds at the offset behind a prefix of its text.
-/

namespace SyntaxKit

/-! ## Points -/

namespace Point

theorem add_def (a b : Point) :
    a + b = if b.row = 0 then ⟨a.row, a.column + b.column⟩ else ⟨a.row + b.row, b.column⟩ := rfl

theorem sub_def (a b : Point) :
    a - b = if b.row < a.row then ⟨a.row - b.row, a.column⟩ else ⟨0, a.column - b.column⟩ := rfl

@[simp] theorem add_zero (a : Point) : a + ⟨0, 0⟩ = a := by simp [add_def]

@[simp] theorem zero_add (a : Point) : ⟨0, 0⟩ + a = a := by
  obtain ⟨row, column⟩ := a
  by_cases h : row = 0 <;> simp [add_def, h]

theorem add_assoc (a b c : Point) : a + b + c = a + (b + c) := by
  by_cases hb : b.row = 0 <;> by_cases hc : c.row = 0 <;>
    simp [add_def, hb, hc, Nat.add_assoc]

@[simp] theorem add_sub_cancel_left (a b : Point) : a + b - a = b := by
  obtain ⟨row, column⟩ := b
  by_cases h : row = 0
  · simp [add_def, sub_def, h]
  · simp [add_def, sub_def, h, Nat.pos_of_ne_zero h]

end Point

/-! ## Extents -/

namespace Extent

@[simp] theorem bytes_add (a b : Extent) : (a + b).bytes = a.bytes + b.bytes := rfl

@[simp] theorem point_add (a b : Extent) : (a + b).point = a.point + b.point := rfl

@[simp] theorem bytes_sub (a b : Extent) : (a - b).bytes = a.bytes - b.bytes := rfl

@[simp] theorem bytes_zero : zero.bytes = 0 := rfl

@[simp] theorem bytes_monus (a b : Extent) : (a.monus b).bytes = a.bytes - b.bytes := by
  rw [monus]
  split
  · rfl
  · rw [bytes_zero]
    omega

@[simp] theorem point_zero : zero.point = ⟨0, 0⟩ := rfl

@[ext] theorem ext {a b : Extent} (hbytes : a.bytes = b.bytes) (hpoint : a.point = b.point) :
    a = b := by
  cases a
  cases b
  simp_all

@[simp] theorem add_zero (a : Extent) : a + zero = a := by
  ext : 1 <;> simp

@[simp] theorem zero_add (a : Extent) : zero + a = a := by
  ext : 1 <;> simp

theorem add_assoc (a b c : Extent) : a + b + c = a + (b + c) := by
  ext : 1
  · simp [Nat.add_assoc]
  · simp [Point.add_assoc]

@[simp] theorem add_sub_cancel_left (a b : Extent) : a + b - a = b := by
  ext : 1
  · show a.bytes + b.bytes - a.bytes = b.bytes
    rw [Nat.add_sub_cancel_left]
  · exact Point.add_sub_cancel_left a.point b.point

theorem push_eq_add (a : Extent) (c : Char) : a.push c = a + zero.push c := by
  by_cases h : c = '\n'
  · ext : 1
    · simp [push, h]
    · simp [push, h, Point.add_def]
  · ext : 1
    · simp [push, h]
    · simp [push, h, Point.add_def]

theorem foldl_push (a : Extent) (text : List Char) : text.foldl push a = a + ofText text := by
  induction text generalizing a with
  | nil => simp [ofText]
  | cons c text ih =>
    have hc := ih (zero.push c)
    calc (c :: text).foldl push a
        = a.push c + ofText text := ih (a.push c)
      _ = a + (zero.push c + ofText text) := by rw [push_eq_add, add_assoc]
      _ = a + ofText (c :: text) := by rw [← hc]; rfl

@[simp] theorem ofText_nil : ofText [] = zero := rfl

/-- The extent of two texts written one after the other. -/
theorem ofText_append (s t : List Char) : ofText (s ++ t) = ofText s + ofText t := by
  rw [ofText, List.foldl_append, foldl_push]
  rfl

theorem ofText_cons (c : Char) (t : List Char) : ofText (c :: t) = zero.push c + ofText t :=
  ofText_append [c] t

theorem push_ofText (s : List Char) (c : Char) : (ofText s).push c = ofText (s ++ [c]) := by
  rw [ofText_append, push_eq_add]
  rfl

/-- Taking the first part of a text off its extent leaves the extent of the rest. -/
@[simp] theorem ofText_sub (s t : List Char) : ofText (s ++ t) - ofText s = ofText t := by
  rw [ofText_append, add_sub_cancel_left]

theorem bytes_push (a : Extent) (c : Char) : (a.push c).bytes = a.bytes + c.utf8Size := by
  by_cases h : c = '\n'
  · subst h
    rfl
  · simp [push, h]

/-- An extent counts the bytes of the text it measures. -/
@[simp] theorem bytes_ofText (t : List Char) : (ofText t).bytes = Text.byteLength t := by
  induction t with
  | nil => rfl
  | cons c t ih => rw [ofText_cons, bytes_add, bytes_push, ih, Text.byteLength, bytes_zero,
      Nat.zero_add]

end Extent

/-! ## Prefixes of a text and the offsets behind them -/

namespace Text

@[simp] theorem byteLength_nil : byteLength [] = 0 := rfl

@[simp] theorem byteLength_append (s t : List Char) :
    byteLength (s ++ t) = byteLength s + byteLength t := by
  induction s with
  | nil => simp
  | cons c s ih => simp [byteLength, ih, Nat.add_assoc]

@[simp] theorem byteLength_eq_zero {t : List Char} : byteLength t = 0 ↔ t = [] := by
  cases t with
  | nil => simp
  | cons c t =>
    have := c.utf8Size_pos
    simp [byteLength]
    omega

/-- Two prefixes of a text that are equally long in bytes are the same. -/
theorem append_inj_of_byteLength {s s' t t' : List Char} (h : s ++ t = s' ++ t')
    (hlength : byteLength s = byteLength s') : s = s' ∧ t = t' := by
  induction s generalizing s' with
  | nil =>
    obtain rfl : s' = [] := byteLength_eq_zero.mp hlength.symm
    exact ⟨rfl, h⟩
  | cons c s ih =>
    cases s' with
    | nil =>
      have := c.utf8Size_pos
      simp [byteLength] at hlength
      omega
    | cons c' s' =>
      simp only [List.cons_append, List.cons.injEq] at h
      obtain ⟨rfl, h⟩ := h
      obtain ⟨rfl, rfl⟩ := ih h (by simpa [byteLength] using hlength)
      exact ⟨rfl, rfl⟩

/-- Every offset before the end of a text lies in a character. -/
theorem exists_char_at {text : List Char} {offset : Nat} (h : offset < byteLength text) :
    ∃ front c back i, text = front ++ c :: back ∧ offset = byteLength front + i
      ∧ i < c.utf8Size := by
  induction text generalizing offset with
  | nil => exact absurd h (Nat.not_lt_zero _)
  | cons c text ih =>
    rcases Nat.lt_or_ge offset c.utf8Size with hlt | hge
    · exact ⟨[], c, text, offset, rfl, (Nat.zero_add _).symm, hlt⟩
    · rw [byteLength] at h
      obtain ⟨front, d, back, i, rfl, hoffset, hi⟩ := @ih (offset - c.utf8Size) (by omega)
      exact ⟨c :: front, d, back, i, rfl, by rw [byteLength]; omega, hi⟩

/-- Of two prefixes of a text the one with fewer bytes is a prefix of the other. -/
theorem exists_append_of_byteLength_le {front back front' back' : List Char}
    (h : front ++ back = front' ++ back') (hle : byteLength front' ≤ byteLength front) :
    ∃ mid, front = front' ++ mid := by
  obtain ⟨mid, hmid, -⟩ | ⟨mid, hmid, -⟩ := List.append_eq_append_iff.mp h
  · rw [hmid, byteLength_append] at hle
    obtain rfl := byteLength_eq_zero.mp (show byteLength mid = 0 by omega)
    exact ⟨[], by simpa using hmid.symm⟩
  · exact ⟨mid, hmid⟩

/-- The text before an offset behind a prefix is that prefix. -/
theorem take?_byteLength (slice after : List Char) :
    take? (slice ++ after) (byteLength slice) = some slice := by
  induction slice with
  | nil => simp [take?]
  | cons c slice ih =>
    have hpos := c.utf8Size_pos
    obtain ⟨b, hb⟩ : ∃ b, byteLength (c :: slice) = b + 1 :=
      ⟨c.utf8Size + byteLength slice - 1, by rw [byteLength]; omega⟩
    have hrest : b + 1 - c.utf8Size = byteLength slice := by
      rw [byteLength] at hb
      omega
    rw [hb, List.cons_append, take?, if_pos (by rw [byteLength] at hb; omega), hrest, ih]
    rfl

end Text

namespace Text

/-- What stands in a text behind the last line break. -/
def lastLine (t : List Char) : List Char := (t.reverse.takeWhile (· != '\n')).reverse

@[simp] theorem lastLine_newline (t : List Char) : lastLine (t ++ ['\n']) = [] := by
  simp [lastLine]

theorem lastLine_concat (t : List Char) {c : Char} (h : c ≠ '\n') :
    lastLine (t ++ [c]) = lastLine t ++ [c] := by
  simp [lastLine, h]

end Text

/-- **The point of an extent counts the line breaks of its text and the bytes behind the last.** -/
theorem Extent.point_ofText (t : List Char) :
    (ofText t).point = ⟨t.count '\n', Text.byteLength (Text.lastLine t)⟩ := by
  induction t using List.reverseRecOn with
  | nil => rfl
  | append_singleton t c ih =>
    rw [← push_ofText, push]
    by_cases h : c = '\n'
    · simp [h, ih]
    · rw [if_neg h, Text.lastLine_concat t h, ih]
      simp [List.count_append, h, Text.byteLength]

namespace Text

@[simp] theorem seen_cons (c : Char) (t : List Char) :
    seen (c :: t) = some c :: (List.replicate (c.utf8Size - 1) none ++ seen t) := rfl

@[simp] theorem seen_append (s t : List Char) : seen (s ++ t) = seen s ++ seen t :=
  List.flatMap_append

/-- Something is seen at each byte. -/
@[simp] theorem length_seen (t : List Char) : (seen t).length = byteLength t := by
  induction t with
  | nil => rfl
  | cons c t ih =>
    have := c.utf8Size_pos
    rw [seen_cons, List.length_cons, List.length_append, List.length_replicate, ih, byteLength]
    omega

end Text

namespace Source

/-- Each byte adds one rest to those behind it. -/
theorem foldr_prepend (seen : List (Option Char)) (rests : List (List Char)) :
    ∃ front, seen.foldr prepend rests = front ++ rests ∧ front.length = seen.length := by
  induction seen with
  | nil => exact ⟨[], rfl, rfl⟩
  | cons seen later ih =>
    obtain ⟨front, hfront, hlength⟩ := ih
    rw [List.foldr_cons, hfront]
    cases seen with
    | none =>
      rw [prepend]
      exact ⟨_ :: front, rfl, by simp [hlength]⟩
    | some c =>
      rw [prepend]
      exact ⟨_ :: front, rfl, by simp [hlength]⟩

/-- The first of the rests of a text is the text itself. -/
theorem head?_rests (t : List Char) : ((Text.seen t).foldr prepend [[]]).head? = some t := by
  induction t with
  | nil => rfl
  | cons c t ih =>
    obtain ⟨front, hfront, hlength⟩ :=
      foldr_prepend (List.replicate (c.utf8Size - 1) none) ((Text.seen t).foldr prepend [[]])
    rw [List.length_replicate] at hlength
    have hrest : (front ++ (Text.seen t).foldr prepend [[]]).getD (c.utf8Size - 1) [] = t := by
      rw [List.getD_eq_getElem?_getD, ← hlength, List.getElem?_append_right (Nat.le_refl _),
        Nat.sub_self, ← List.head?_eq_getElem?, ih]
      rfl
    rw [Text.seen_cons, List.foldr_cons, List.foldr_append, hfront, prepend, hrest]
    rfl

/-- At the offset behind a prefix a source holds the rest of its text. -/
theorem suffixAt_ofText (s t : List Char) :
    (ofText (s ++ t)).suffixAt (Text.byteLength s) = t := by
  obtain ⟨front, hfront, hlength⟩ := foldr_prepend (Text.seen s) ((Text.seen t).foldr prepend [[]])
  rw [Text.length_seen] at hlength
  rw [suffixAt, ofText, ofSeen, Text.seen_append, List.foldr_append, hfront,
    Array.getD_eq_getD_getElem?, List.getElem?_toArray, ← hlength,
    List.getElem?_append_right (Nat.le_refl _), Nat.sub_self, ← List.head?_eq_getElem?, head?_rests]
  rfl

@[simp] theorem suffixAt_zero (text : List Char) : (ofText text).suffixAt 0 = text :=
  suffixAt_ofText [] text

end Source

end SyntaxKit
