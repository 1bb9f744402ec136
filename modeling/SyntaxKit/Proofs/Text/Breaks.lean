import Mathlib.Data.List.Basic
import SyntaxKit.Proofs.Text.Index
import SyntaxKit.Proofs.Text.Rows
import SyntaxKit.Proofs.Text.Utf8

/-!
# The line breaks before an offset

The point of an offset counts the line breaks that end at or before it and the bytes behind the last
of them (`Text.pointAt_eq`), wherever the offset is: between characters, within one, or between the
two of `\r\n`.

A tree counts only the `\n`.  Each of them ends a line break, so what a tree counts is a part of
the line breaks (`Text.ofBytes_take_encode`), and an offset has the same point either way just if
there is no other line break before it (`Text.pointAt_spec`).
-/

namespace SyntaxKit

namespace Text

variable {text t : List Char} {c : Char} {offset target e : Nat}

/-! ## Line breaks -/

/-- The characters that end a line. -/
def lineBreakCharacters : List Char :=
  ['\n', '\r', '\u000B', '\u000C', '\u0085', '\u2028', '\u2029']

theorem isLineBreak_iff : isLineBreak c = true ↔ c ∈ lineBreakCharacters := by
  have hchar : ∀ c' : Char, c.toNat = c'.toNat ↔ c = c' := fun _ => Char.toNat_inj
  simp only [isLineBreak, lineBreakCharacters, Bool.or_eq_true, beq_iff_eq, List.mem_cons,
    List.not_mem_nil, or_false, ← hchar, or_assoc]
  rfl

/-- A line break ends with a character that has `rest` behind it.  The `\r` of `\r\n` does not end
one, so with `\n` end the line breaks `\n` and `\r\n`, and no others. -/
def EndsBreak (c : Char) (rest : List Char) : Prop :=
  c ∈ lineBreakCharacters ∧ (c = '\r' → rest.head? ≠ some '\n')

instance (c : Char) (rest : List Char) : Decidable (EndsBreak c rest) :=
  inferInstanceAs (Decidable (_ ∧ _))

theorem endsBreak_newline (rest : List Char) : EndsBreak '\n' rest :=
  ⟨by decide, fun h => absurd h (by decide)⟩

/-- A line break of a text ends at an offset, with the character `c`. -/
def BreakEnds (text : List Char) (c : Char) (e : Nat) : Prop :=
  ∃ front back, text = front ++ c :: back ∧ EndsBreak c back ∧ byteLength (front ++ [c]) = e

/-- A line break ends with the first character of a text or in what follows it. -/
theorem breakEnds_cons {a : Char} : BreakEnds (a :: t) c e ↔
    (c = a ∧ EndsBreak a t ∧ e = a.utf8Size) ∨ ∃ e', BreakEnds t c e' ∧ e = a.utf8Size + e' := by
  constructor
  · rintro ⟨front, back, htext, hends, rfl⟩
    cases front with
    | nil =>
      obtain ⟨rfl, rfl⟩ := List.cons.inj htext
      exact .inl ⟨rfl, hends, by simp [byteLength]⟩
    | cons a' front =>
      obtain ⟨rfl, rfl⟩ := List.cons.inj htext
      exact .inr ⟨_, ⟨front, back, rfl, hends, rfl⟩, rfl⟩
  · rintro (⟨rfl, hends, rfl⟩ | ⟨e', ⟨front, back, rfl, hends, rfl⟩, rfl⟩)
    · exact ⟨[], t, rfl, hends, by simp [byteLength]⟩
    · exact ⟨a :: front, back, rfl, hends, rfl⟩

/-- Where a line break ends there is something before. -/
theorem BreakEnds.pos (h : BreakEnds text c e) : 0 < e := by
  obtain ⟨front, back, -, -, rfl⟩ := h
  have := c.utf8Size_pos
  rw [byteLength_append, byteLength]
  omega

theorem not_breakEnds_nil : ¬BreakEnds [] c e := by
  rintro ⟨front, back, htext, -⟩
  simp at htext

/-- The line breaks of a text that begins at `offset`: the character that each ends with, and
where. -/
def breaksFrom : List Char → Nat → List (Char × Nat)
  | [], _ => []
  | c :: rest, offset =>
    if EndsBreak c rest then (c, offset + c.utf8Size) :: breaksFrom rest (offset + c.utf8Size)
    else breaksFrom rest (offset + c.utf8Size)

theorem mem_breaksFrom (t : List Char) (offset : Nat) (x : Char × Nat) :
    x ∈ breaksFrom t offset ↔ ∃ e, BreakEnds t x.1 e ∧ x.2 = offset + e := by
  obtain ⟨c, stop⟩ := x
  dsimp only
  induction t generalizing offset with
  | nil => simp [breaksFrom, not_breakEnds_nil]
  | cons a t ih =>
    have hcons : (∃ e, BreakEnds (a :: t) c e ∧ stop = offset + e)
        ↔ (c = a ∧ EndsBreak a t ∧ stop = offset + a.utf8Size)
          ∨ ∃ e, BreakEnds t c e ∧ stop = offset + a.utf8Size + e := by
      simp only [breakEnds_cons]
      constructor
      · rintro ⟨e, ⟨rfl, hends, rfl⟩ | ⟨e', hends, rfl⟩, rfl⟩
        · exact .inl ⟨rfl, hends, rfl⟩
        · exact .inr ⟨e', hends, by omega⟩
      · rintro (⟨rfl, hends, rfl⟩ | ⟨e', hends, rfl⟩)
        · exact ⟨_, .inl ⟨rfl, hends, rfl⟩, rfl⟩
        · exact ⟨_, .inr ⟨e', hends, rfl⟩, by omega⟩
    rw [hcons, breaksFrom, ← ih]
    split
    · next hends => simp [hends]
    · next hends => simp [hends]

theorem lt_of_mem_breaksFrom (t : List Char) (offset : Nat) :
    ∀ x ∈ breaksFrom t offset, offset < x.2 := by
  intro x hx
  obtain ⟨e, hends, he⟩ := (mem_breaksFrom t offset x).mp hx
  have hpos := hends.pos
  omega

theorem pairwise_breaksFrom (t : List Char) (offset : Nat) :
    (breaksFrom t offset).Pairwise fun x y => x.2 < y.2 := by
  induction t generalizing offset with
  | nil => exact .nil
  | cons a t ih =>
    rw [breaksFrom]
    split
    · exact .cons (lt_of_mem_breaksFrom t _) (ih _)
    · exact ih _

/-! ## The point of an offset -/

/-- The point behind some line breaks: as many rows, and a column counted from the end of the
last. -/
def pointBehind (row rowStart target : Nat) (breaks : List (Char × Nat)) : Point :=
  ⟨row + breaks.length, target - (breaks.map Prod.snd).getLastD rowStart⟩

@[simp] theorem pointBehind_nil (row rowStart : Nat) :
    pointBehind row rowStart target [] = ⟨row, target - rowStart⟩ := rfl

@[simp] theorem pointBehind_cons (row rowStart : Nat) (x : Char × Nat) (xs : List (Char × Nat)) :
    pointBehind row rowStart target (x :: xs) = pointBehind (row + 1) x.2 target xs := by
  rw [pointBehind, List.length_cons, List.map_cons, List.getLastD_cons, Nat.add_comm xs.length,
    ← Nat.add_assoc, pointBehind]

/-- No line break ends before an offset that lies before the text. -/
theorem filter_breaksFrom_of_le (t : List Char) (h : target ≤ offset) :
    (breaksFrom t offset).filter (·.2 ≤ target) = [] := by
  simp only [List.filter_eq_nil_iff, decide_eq_true_eq, Nat.not_le]
  exact fun x hx => Nat.lt_of_le_of_lt h (lt_of_mem_breaksFrom t offset x hx)

/-- No line break ends before the end of the first character of a text. -/
theorem filter_breaksFrom_cons_of_lt (c : Char) (t : List Char) (h : target < offset + c.utf8Size) :
    (breaksFrom (c :: t) offset).filter (·.2 ≤ target) = [] := by
  simp only [List.filter_eq_nil_iff, decide_eq_true_eq, Nat.not_le]
  intro x hx
  obtain ⟨e, hends, he⟩ := (mem_breaksFrom (c :: t) offset x).mp hx
  obtain ⟨-, -, -, rfl⟩ | ⟨e', -, rfl⟩ := breakEnds_cons.mp hends <;> omega

theorem pointFrom_of_endsBreak (h : EndsBreak c t) (row rowStart : Nat) :
    pointFrom target (c :: t) offset row rowStart false
      = if offset + c.utf8Size ≤ target then
          pointFrom target t (offset + c.utf8Size) (row + 1) (offset + c.utf8Size) false
        else ⟨row, target - rowStart⟩ := by
  have hbreak : lineBreak? (c :: t) = some c.utf8Size := by
    rw [lineBreak?_cons, if_pos (isLineBreak_iff.mpr h.1)]
    rintro rest hc rfl
    exact h.2 hc rfl
  rw [pointFrom, if_neg (by simp), hbreak]
  simp

/-- What does not end a line break is passed over, and so is the `\r` of `\r\n`. -/
theorem pointFrom_of_not_endsBreak (h : ¬EndsBreak c t) (row rowStart : Nat) :
    pointFrom target (c :: t) offset row rowStart false
      = pointFrom target t (offset + c.utf8Size) row rowStart false := by
  by_cases hc : isLineBreak c = true
  · obtain ⟨rfl, hhead⟩ : c = '\r' ∧ t.head? = some '\n' := by
      simpa [EndsBreak, isLineBreak_iff.mp hc] using h
    obtain ⟨t, rfl⟩ := List.head?_eq_some_iff.mp hhead
    have hsizes : '\r'.utf8Size = 1 ∧ '\n'.utf8Size = 1 := by decide
    rw [pointFrom_of_endsBreak (endsBreak_newline t), pointFrom, if_neg (by simp), lineBreak?,
      hsizes.1, hsizes.2, Nat.add_assoc]
    dsimp only
    by_cases hle : offset + 2 ≤ target
    · rw [if_pos hle, if_pos hle, pointFrom, if_pos (by decide), hsizes.2, Nat.add_assoc]
    · rw [if_neg hle, if_neg hle]
  · rw [pointFrom, if_neg (by simp), lineBreak?_cons, if_neg hc]
    rintro rest rfl
    exact absurd rfl hc

/-- Walking to an offset passes the line breaks that end before it. -/
theorem pointFrom_eq (t : List Char) (offset row rowStart : Nat) :
    pointFrom target t offset row rowStart false
      = pointBehind row rowStart target ((breaksFrom t offset).filter (·.2 ≤ target)) := by
  induction t generalizing offset row rowStart with
  | nil => rfl
  | cons c t ih =>
    rw [breaksFrom]
    by_cases hends : EndsBreak c t
    · rw [pointFrom_of_endsBreak hends, if_pos hends, List.filter_cons]
      dsimp only
      by_cases hle : offset + c.utf8Size ≤ target
      · rw [if_pos hle, if_pos (by simpa using hle), ih, pointBehind_cons]
      · rw [if_neg hle, if_neg (by simpa using hle), filter_breaksFrom_of_le t (by omega),
          pointBehind_nil]
    · rw [pointFrom_of_not_endsBreak hends, if_neg hends, ih]

end Text

/-! ## Counting `\n` in bytes -/

/-- The byte of `\n` is in the bytes of no other character. -/
theorem Utf8.newline_notMem_encodeChar {c : Char} (h : c ≠ '\n') :
    (0x0A : UInt8) ∉ String.utf8EncodeChar c := by
  have hval : c.val.toNat ≠ 10 := fun hval => h (Char.ext (UInt32.toNat_inj.mp hval))
  have hbyte : ∀ n < 256, n ≠ 10 → (0x0A : UInt8) ≠ UInt8.ofNat n := by
    intro n hn hne heq
    have := congrArg UInt8.toNat heq
    rw [toNat_byte hn] at this
    exact hne this.symm
  have hhigh : ∀ n, (0x0A : UInt8) ≠ UInt8.ofNat (n % 64 + 0x80) := fun n =>
    hbyte _ (by omega) (by omega)
  rw [String.utf8EncodeChar]
  split
  · simpa only [List.mem_singleton] using hbyte _ (by omega) hval
  split
  · simp only [List.mem_cons, List.not_mem_nil, or_false, not_or]
    exact ⟨hbyte _ (by omega) (by omega), hhigh _⟩
  split
  · simp only [List.mem_cons, List.not_mem_nil, or_false, not_or]
    exact ⟨hbyte _ (by omega) (by omega), hhigh _, hhigh _⟩
  · simp only [List.mem_cons, List.not_mem_nil, or_false, not_or]
    exact ⟨hbyte _ (by omega) (by omega), hhigh _, hhigh _, hhigh _⟩

theorem Utf8.newline_notMem_take {c : Char} {n : Nat} (h : n < c.utf8Size) :
    (0x0A : UInt8) ∉ (String.utf8EncodeChar c).take n := by
  by_cases hc : c = '\n'
  · subst hc
    obtain rfl : n = 0 := Nat.lt_one_iff.mp h
    simp
  · exact fun hmem => newline_notMem_encodeChar hc (List.mem_of_mem_take hmem)

namespace Point

/-- The point behind some bytes if only `\n` ends a line: how many `\n` they hold, and how many bytes
come behind the last of them. -/
def ofBytes (bytes : List UInt8) : Point :=
  ⟨bytes.count 0x0A, (bytes.reverse.takeWhile (· != 0x0A)).length⟩

theorem ofBytes_concat_newline (bytes : List UInt8) :
    ofBytes (bytes ++ [0x0A]) = ⟨(ofBytes bytes).row + 1, 0⟩ := by
  simp [ofBytes]

theorem ofBytes_append (bytes : List UInt8) {more : List UInt8} (h : 0x0A ∉ more) :
    ofBytes (bytes ++ more) = ⟨(ofBytes bytes).row, (ofBytes bytes).column + more.length⟩ := by
  have hall : ∀ b ∈ more.reverse, (b != 0x0A) = true := by
    intro b hb
    rw [bne_iff_ne]
    rintro rfl
    exact h (List.mem_reverse.mp hb)
  rw [ofBytes, List.reverse_append, List.takeWhile_append_of_pos hall]
  simp [ofBytes, List.count_eq_zero.mpr h, Nat.add_comm]

end Point

namespace Text

/-- Each `\n` ends a line break, and nothing else ends one with a `\n`. -/
theorem filter_newline_breaksFrom (c : Char) (t : List Char) (offset : Nat) :
    (breaksFrom (c :: t) offset).filter (·.1 = '\n')
      = if c = '\n' then ('\n', offset + 1) :: (breaksFrom t (offset + 1)).filter (·.1 = '\n')
        else (breaksFrom t (offset + c.utf8Size)).filter (·.1 = '\n') := by
  rw [breaksFrom]
  by_cases hc : c = '\n'
  · subst hc
    have hsize : '\n'.utf8Size = 1 := rfl
    rw [if_pos (endsBreak_newline t), if_pos rfl, hsize, List.filter_cons, if_pos (by simp)]
  · rw [if_neg hc]
    split
    · rw [List.filter_cons, if_neg (by simpa using hc)]
    · rfl

/-- **Counting the `\n` in the bytes of a text comes to the line breaks that end with one.** -/
theorem ofBytes_take (t : List Char) (before : List UInt8) {row rowStart : Nat}
    (hpoint : Point.ofBytes before = ⟨row, before.length - rowStart⟩)
    (hstart : rowStart ≤ before.length) (hle : before.length ≤ target)
    (hwithin : target ≤ before.length + byteLength t) :
    Point.ofBytes (before ++ (Utf8.encode t).take (target - before.length))
      = pointBehind row rowStart target
        (((breaksFrom t before.length).filter (·.1 = '\n')).filter (·.2 ≤ target)) := by
  induction t generalizing before row rowStart with
  | nil =>
    obtain rfl : target = before.length := by simpa using Nat.le_antisymm hwithin hle
    simpa [breaksFrom] using hpoint
  | cons c t ih =>
    have hsize := String.length_utf8EncodeChar c
    have hencode : Utf8.encode (c :: t) = String.utf8EncodeChar c ++ Utf8.encode t := rfl
    rw [byteLength, ← Nat.add_assoc] at hwithin
    rw [hencode]
    by_cases hin : target < before.length + c.utf8Size
    · -- the offset is in front of the character or within it, and no line break ends before it
      have htake : 0x0A ∉ (String.utf8EncodeChar c).take (target - before.length) :=
        Utf8.newline_notMem_take (by omega)
      rw [List.take_append_of_le_length (by omega), Point.ofBytes_append _ htake, hpoint,
        List.filter_comm, filter_breaksFrom_cons_of_lt c t hin, List.filter_nil, pointBehind_nil,
        List.length_take, Nat.min_eq_left (by omega), Point.mk.injEq]
      dsimp only
      omega
    · rw [List.take_append, List.take_of_length_le (by omega), ← List.append_assoc, Nat.sub_sub,
        ← List.length_append, filter_newline_breaksFrom]
      have hlength : (before ++ String.utf8EncodeChar c).length = before.length + c.utf8Size := by
        rw [List.length_append, hsize]
      by_cases hc : c = '\n'
      · subst hc
        have hnewline : String.utf8EncodeChar '\n' = [0x0A] := rfl
        have hone : '\n'.utf8Size = 1 := rfl
        rw [hone] at hlength
        have hbehind : Point.ofBytes (before ++ String.utf8EncodeChar '\n')
            = ⟨row + 1, (before ++ String.utf8EncodeChar '\n').length - (before.length + 1)⟩ := by
          rw [hlength, hnewline, Point.ofBytes_concat_newline, hpoint, Nat.sub_self]
        rw [ih _ hbehind (by omega) (by omega) (by omega), hlength, if_pos rfl, List.filter_cons,
          if_pos (by simp; omega), pointBehind_cons]
      · have hbehind : Point.ofBytes (before ++ String.utf8EncodeChar c)
            = ⟨row, (before ++ String.utf8EncodeChar c).length - rowStart⟩ := by
          rw [Point.ofBytes_append _ (Utf8.newline_notMem_encodeChar hc), hpoint, hlength, hsize,
            Point.mk.injEq]
          dsimp only
          omega
        rw [ih _ hbehind (by omega) (by omega) (by omega), hlength, if_neg hc]

/-! ## Both points of an offset -/

/-- **The point of an offset counts the line breaks that end at or before it**, and the bytes behind
the end of the last of them. -/
theorem pointAt_eq (text : List Char) (offset : Nat) :
    pointAt text offset = pointBehind 0 0 offset ((breaksFrom text 0).filter (·.2 ≤ offset)) :=
  pointFrom_eq text 0 0 0

/-- The `\n` in the bytes before an offset are the line breaks before it that end with one. -/
theorem ofBytes_take_encode (h : offset ≤ byteLength text) :
    Point.ofBytes ((Utf8.encode text).take offset) = pointBehind 0 0 offset
      (((breaksFrom text 0).filter (·.2 ≤ offset)).filter (·.1 = '\n')) := by
  rw [List.filter_comm]
  exact ofBytes_take text [] rfl (Nat.le_refl 0) (Nat.zero_le offset) (by simpa using h)

/-- **The point of an offset is the one that a tree gives it just if only `\n` and `\r\n` end lines
before it.**  In any case the row of the point is the number of line breaks that end at or before
the offset, and the column is the distance to the end of the last of them, or to the start of the
text. -/
theorem pointAt_spec (h : offset ≤ byteLength text) :
    ∃ (p : Point) (ends : List Nat), pointAt? text offset = some p
      ∧ ends.Pairwise (· < ·) ∧ (∀ e, e ∈ ends ↔ e ≤ offset ∧ ∃ c, BreakEnds text c e)
      ∧ p = ⟨ends.length, offset - ends.getLastD 0⟩
      ∧ (p = Point.ofBytes ((Utf8.encode text).take offset)
        ↔ ∀ c e, BreakEnds text c e → e ≤ offset → c = '\n') := by
  have hmem : ∀ c e, (c, e) ∈ (breaksFrom text 0).filter (·.2 ≤ offset)
      ↔ BreakEnds text c e ∧ e ≤ offset := by
    intro c e
    simp [mem_breaksFrom]
  have hsorted := (pairwise_breaksFrom text 0).filter (·.2 ≤ offset)
  have hpoint := pointAt_eq text offset
  have hbytes := ofBytes_take_encode h
  generalize (breaksFrom text 0).filter (·.2 ≤ offset) = breaks at hmem hsorted hpoint hbytes
  refine ⟨pointAt text offset, breaks.map Prod.snd, ?_, List.pairwise_map.mpr hsorted, fun e => ?_,
    ?_, ?_⟩
  · rw [pointAt?, if_neg (Nat.not_lt.mpr h)]
  · simp only [List.mem_map, Prod.exists, exists_eq_right, hmem]
    exact ⟨fun ⟨c, hends, hle⟩ => ⟨hle, c, hends⟩, fun ⟨hle, c, hends⟩ => ⟨c, hends, hle⟩⟩
  · rw [hpoint, pointBehind, Nat.zero_add, List.length_map]
  · rw [hpoint, hbytes]
    constructor
    · intro heq c e hends hle
      have hrows := congrArg Point.row heq
      simp only [pointBehind, Nat.zero_add] at hrows
      have hall := List.length_filter_eq_length_iff.mp hrows.symm
      simpa using hall (c, e) ((hmem c e).mpr ⟨hends, hle⟩)
    · intro honly
      have hall : breaks.filter (·.1 = '\n') = breaks := by
        rw [List.filter_eq_self]
        rintro ⟨c, e⟩ hx
        obtain ⟨hends, hle⟩ := (hmem c e).mp hx
        simpa using honly c e hends hle
      rw [hall]

example : pointAt ['a', '\r', 'b', '\n', 'c'] 3 = ⟨1, 1⟩
    ∧ Point.ofBytes ((Utf8.encode ['a', '\r', 'b', '\n', 'c']).take 3) = ⟨0, 3⟩ := by decide

/-- Between the bytes of U+2028 only the line break `\r\n` is before the offset. -/
theorem pointAt_spec_separator : 5 ≤ byteLength ['a', '\r', '\n', '\u2028', 'b']
    ∧ ∃ (p : Point) (ends : List Nat), pointAt? ['a', '\r', '\n', '\u2028', 'b'] 5 = some p
      ∧ (∀ e, e ∈ ends ↔ e ≤ 5 ∧ ∃ c, BreakEnds ['a', '\r', '\n', '\u2028', 'b'] c e)
      ∧ p = ⟨ends.length, 5 - ends.getLastD 0⟩
      ∧ (p = Point.ofBytes ((Utf8.encode ['a', '\r', '\n', '\u2028', 'b']).take 5)
        ↔ ∀ c e, BreakEnds ['a', '\r', '\n', '\u2028', 'b'] c e → e ≤ 5 → c = '\n') := by
  have hle : 5 ≤ byteLength ['a', '\r', '\n', '\u2028', 'b'] := by decide
  obtain ⟨p, ends, hp, -, hends, hpoint, hiff⟩ := pointAt_spec hle
  exact ⟨hle, p, ends, hp, hends, hpoint, hiff⟩

end Text

end SyntaxKit
