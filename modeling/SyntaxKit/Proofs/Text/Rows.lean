import SyntaxKit.Proofs.Text.Extent
import SyntaxKit.Text.Lines

/-!
# The rows of a text

A text is the rows that it is divided into, one behind the other (`Text.flatten_rows`), and every byte
of it is in one of them.  The point of a byte is told by that row: how many rows are before it, and how
many bytes of the text come between its start and the byte (`Text.exists_pointAt`).

A `\n` always ends a row, but not every row ends with one.  So the rows before a row are as many as
the `\n` in them just if each of them ends with one (`Text.count_newline_eq_iff`).
-/

namespace SyntaxKit

namespace Text

variable {text row before : List Char} {rows done : List (List Char)} {offset : Nat}

/-! ## What rows are made of -/

theorem flatten_rowsFrom (t row : List Char) : (rowsFrom t row).flatten = row.reverse ++ t := by
  fun_induction rowsFrom t row <;> simp_all

/-- **The rows of a text make up the text.** -/
theorem flatten_rows (text : List Char) : (Text.rows text).flatten = text := flatten_rowsFrom text []

theorem newline_notMem_rowsFrom (t row : List Char) (h : '\n' ∉ row) :
    ∀ r ∈ rowsFrom t row, '\n' ∉ r.dropLast := by
  have hreverse : '\n' ∉ row.reverse := by simpa using h
  fun_induction rowsFrom t row with
  | case1 => simp
  | case2 row => simpa using fun hmem => hreverse (List.dropLast_subset _ hmem)
  | case3 rest row ih => simpa using ⟨h, ih (by simp) (by simp)⟩
  | case4 c rest row hnot hbreak ih => simpa using ⟨h, ih (by simp) (by simp)⟩
  | case5 c rest row hnot hbreak ih =>
    have hc : '\n' ∉ c :: row := by
      rw [List.mem_cons, not_or]
      exact ⟨fun hc => hbreak (by rw [← hc]; rfl), h⟩
    exact ih hc (by rwa [List.mem_reverse])

/-- A row has no `\n` but at its end. -/
theorem newline_notMem_dropLast (h : row ∈ Text.rows text) : '\n' ∉ row.dropLast :=
  newline_notMem_rowsFrom text [] (by simp) row h

/-- The first line break of a text, unless it is one of two characters. -/
theorem lineBreak?_cons {c : Char} {t : List Char} (h : ∀ rest, c = '\r' → t = '\n' :: rest → False) :
    lineBreak? (c :: t) = if isLineBreak c then some c.utf8Size else none := by
  rw [lineBreak?.eq_def]
  split
  · next rest heq => exact (h rest (List.cons.inj heq).1 (List.cons.inj heq).2).elim
  · next heq => rw [(List.cons.inj heq).1]
  · next heq => simp at heq

/-! ## The row of a byte -/

/-- A byte is in a row, and some rows are before it. -/
structure InRow (offset : Nat) (rows done : List (List Char)) (row : List Char) : Prop where
  begins : done ++ [row] <+: rows
  behind : byteLength done.flatten ≤ offset
  inside : offset < byteLength done.flatten + byteLength row

theorem InRow.head (rest : List (List Char)) (h : offset < byteLength row) :
    InRow offset (row :: rest) [] row :=
  ⟨by simp, by simp, by simpa using h⟩

/-- Behind one more row. -/
theorem InRow.cons {first : List Char} (hle : byteLength first ≤ offset)
    (h : InRow (offset - byteLength first) rows done row) :
    InRow offset (first :: rows) (first :: done) row where
  begins := by simpa using h.begins
  behind := by
    have := h.behind
    rw [List.flatten_cons, byteLength_append]
    omega
  inside := by
    have := h.inside
    rw [List.flatten_cons, byteLength_append]
    omega

/-- A point behind one more row is one row further. -/
theorem InRow.exists_cons {first : List Char} {target start n : Nat} {p : Point}
    (hle : start + byteLength first ≤ target)
    (h : ∃ done r, InRow (target - (start + byteLength first)) rows done r
      ∧ p = ⟨n + 1 + done.length, target - (start + byteLength first) - byteLength done.flatten⟩) :
    ∃ done r, InRow (target - start) (first :: rows) done r
      ∧ p = ⟨n + done.length, target - start - byteLength done.flatten⟩ := by
  obtain ⟨done, r, hin, rfl⟩ := h
  rw [← Nat.sub_sub] at hin
  refine ⟨first :: done, r, hin.cons (by omega), ?_⟩
  rw [List.length_cons, List.flatten_cons, byteLength_append, Point.mk.injEq]
  omega

/-- Walking over a text from a row that begins at `start`, and of which `row` has been seen, comes to the
row that the target is in. -/
theorem exists_pointFrom (t row : List Char) {target start : Nat} (n : Nat) (hstart : start ≤ target)
    (h : target < start + byteLength row.reverse + byteLength t) :
    ∃ done r, InRow (target - start) (rowsFrom t row) done r
      ∧ pointFrom target t (start + byteLength row.reverse) n start false
        = ⟨n + done.length, target - start - byteLength done.flatten⟩ := by
  fun_induction rowsFrom t row generalizing start n with
  | case1 => simp at h; omega
  | case2 row hne =>
    simp only [byteLength_nil, Nat.add_zero] at h
    exact ⟨[], row.reverse, .head [] (by omega), by simp [pointFrom]⟩
  | case3 rest row ih =>
    have hlength : byteLength (row.reverse ++ ['\r', '\n']) = byteLength row.reverse + 2 := by
      rw [byteLength_append]
      rfl
    have hsizes : '\r'.utf8Size = 1 ∧ '\n'.utf8Size = 1 := by decide
    rw [pointFrom, if_neg (by simp), lineBreak?]
    dsimp only
    by_cases hle : start + byteLength (row.reverse ++ ['\r', '\n']) ≤ target
    · have hrest := ih (n + 1) hle (by simpa [byteLength, Nat.add_assoc] using h)
      rw [if_pos (by omega), hsizes.1, pointFrom, if_pos (by simp), hsizes.2]
      refine InRow.exists_cons hle ?_
      simpa [hlength, Nat.add_assoc] using hrest
    · rw [if_neg (by omega)]
      exact ⟨[], _, .head _ (by omega), by simp⟩
  | case4 c rest row hnot hbreak ih =>
    have hlength : byteLength (row.reverse ++ [c]) = byteLength row.reverse + c.utf8Size := by
      simp [byteLength]
    rw [pointFrom, if_neg (by simp), lineBreak?_cons hnot, if_pos hbreak]
    dsimp only
    by_cases hle : start + byteLength (row.reverse ++ [c]) ≤ target
    · have hrest := ih (n + 1) hle (by simpa [byteLength, Nat.add_assoc] using h)
      rw [if_pos (by omega)]
      refine InRow.exists_cons hle ?_
      simpa [hlength, Nat.add_assoc] using hrest
    · rw [if_neg (by omega)]
      exact ⟨[], _, .head _ (by omega), by simp⟩
  | case5 c rest row hnot hbreak ih =>
    rw [pointFrom, if_neg (by simp), lineBreak?_cons hnot, if_neg hbreak]
    have hrest := ih n hstart (by simpa [byteLength, Nat.add_assoc] using h)
    simpa [byteLength, Nat.add_assoc] using hrest

/-- **The point of a byte is told by the row that it is in.** -/
theorem exists_pointAt (h : offset < byteLength text) :
    ∃ done row, InRow offset (Text.rows text) done row
      ∧ pointAt text offset = ⟨done.length, offset - byteLength done.flatten⟩ := by
  obtain ⟨done, row, hin, hpoint⟩ :=
    exists_pointFrom text [] 0 (Nat.zero_le offset) (by simpa using h)
  exact ⟨done, row, hin, by simpa [pointAt] using hpoint⟩

theorem InRow.getElem? (h : InRow offset rows done row) : rows[done.length]? = some row := by
  obtain ⟨rest, hrest⟩ := h.begins
  simp [← hrest]

/-- A prefix of a text that ends in a row, or with it, is what is before the row and a first part of the
row. -/
theorem InRow.exists_front (h : InRow offset (Text.rows text) done row) (hbefore : before <+: text)
    (hlow : byteLength done.flatten ≤ byteLength before)
    (hhigh : byteLength before ≤ byteLength done.flatten + byteLength row) :
    ∃ front, before = done.flatten ++ front ∧ front <+: row
      ∧ take? row (byteLength before - byteLength done.flatten) = some front := by
  obtain ⟨rest, hrest⟩ := h.begins
  obtain ⟨back, hback⟩ := hbefore
  have htext : done.flatten ++ (row ++ rest.flatten) = before ++ back := by
    rw [hback, ← flatten_rows text, ← hrest]
    simp
  obtain ⟨front, rfl⟩ := exists_append_of_byteLength_le htext.symm hlow
  rw [List.append_assoc, List.append_cancel_left_eq] at htext
  rw [byteLength_append] at hhigh
  obtain ⟨tail, rfl⟩ := exists_append_of_byteLength_le htext (by omega)
  refine ⟨front, rfl, List.prefix_append _ _, ?_⟩
  rw [byteLength_append, Nat.add_sub_cancel_left, take?_byteLength]

/-! ## Rows and line breaks -/

/-- A row counts at most one `\n`, the one that ends it. -/
theorem count_newline_of_notMem (h : '\n' ∉ row.dropLast) :
    row.count '\n' = if row.getLast? = some '\n' then 1 else 0 := by
  have hfront : row.dropLast.count '\n' = 0 := List.count_eq_zero.mpr h
  rcases List.eq_nil_or_concat row with rfl | ⟨init, c, rfl⟩
  · rfl
  · rw [List.concat_eq_append, List.dropLast_concat] at hfront
    by_cases hc : c = '\n' <;> simp [List.count_append, hfront, hc]

/-- Rows are at least as many as the `\n` in them. -/
theorem count_newline_le (h : ∀ r ∈ rows, '\n' ∉ r.dropLast) :
    rows.flatten.count '\n' ≤ rows.length := by
  induction rows with
  | nil => simp
  | cons r rs ih =>
    rw [List.forall_mem_cons] at h
    have hcount := count_newline_of_notMem h.1
    have hothers := ih h.2
    rw [List.flatten_cons, List.count_append, List.length_cons]
    split at hcount <;> omega

/-- **Rows are as many as the `\n` in them just if each of them ends with one.** -/
theorem count_newline_eq_iff (h : ∀ r ∈ rows, '\n' ∉ r.dropLast) :
    rows.length = rows.flatten.count '\n' ↔ ∀ r ∈ rows, r.getLast? = some '\n' := by
  induction rows with
  | nil => simp
  | cons r rs ih =>
    rw [List.forall_mem_cons] at h
    have hcount := count_newline_of_notMem h.1
    have hle := count_newline_le h.2
    have hothers := ih h.2
    rw [List.forall_mem_cons, List.flatten_cons, List.count_append, List.length_cons]
    refine Iff.trans ?_ (and_congr_right fun _ => hothers)
    by_cases hend : r.getLast? = some '\n'
    · rw [if_pos hend] at hcount
      simp only [hend, true_and]
      omega
    · rw [if_neg hend] at hcount
      simp only [hend, false_and, iff_false]
      omega

/-- Before a byte in its row there is no `\n`. -/
theorem InRow.newline_notMem {front : List Char}
    (h : InRow (byteLength (done.flatten ++ front)) (Text.rows text) done row)
    (hfront : front <+: row) : '\n' ∉ front := by
  obtain ⟨tail, rfl⟩ := hfront
  have hne : tail ≠ [] := by
    rintro rfl
    have := h.inside
    simp at this
  have hrow : front ++ tail ∈ Text.rows text := h.begins.subset (by simp)
  intro hmem
  refine newline_notMem_dropLast hrow ?_
  rw [List.dropLast_append_of_ne_nil hne]
  exact List.mem_append_left _ hmem

theorem lastLine_append_of_notMem (t : List Char) {s : List Char} (h : '\n' ∉ s) :
    lastLine (t ++ s) = lastLine t ++ s := by
  induction s using List.reverseRecOn with
  | nil => simp
  | append_singleton s c ih =>
    simp only [List.mem_append, List.mem_singleton, not_or] at h
    rw [← List.append_assoc, lastLine_concat _ (Ne.symm h.2), ih h.1, List.append_assoc]

/-- Behind rows that end with `\n` a new line begins. -/
theorem lastLine_flatten (h : ∀ r ∈ rows, r.getLast? = some '\n') : lastLine rows.flatten = [] := by
  rcases List.eq_nil_or_concat rows with rfl | ⟨init, r, rfl⟩
  · rfl
  · obtain ⟨front, rfl⟩ := List.getLast?_eq_some_iff.mp (h r (by simp))
    simp [← List.append_assoc]

end Text

end SyntaxKit
