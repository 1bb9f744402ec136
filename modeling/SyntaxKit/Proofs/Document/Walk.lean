import SyntaxKit.Language.Harneet
import SyntaxKit.Proofs.Document.Edit
import SyntaxKit.Proofs.Text.Breaks

/-!
# Points behind inserted text

The point behind an insertion is found by walking over the inserted text from where it begins
(`Point.after`).  Walking is adding the displacement of the text (`Point.after_eq_add`), so texts act
on points; line by line, the first line moves the column and each further one begins a row
(`Point.after_eq_foldl_splitOn`).  In bytes, it counts on from the `\n` that come before
(`Point.ofBytes_append_encode`).

So an edit hands the tree a point behind the new text that counts the `\n` of the edited text,
whenever the point at which it begins counts those of the old one (`Document.after_acts`).
-/

namespace SyntaxKit

namespace Point

/-! ## Walking over a text -/

/-- Walking over a text is adding its displacement. -/
theorem after_eq_add (p : Point) (t : List Char) : p.after t = p + (Extent.ofText t).point := by
  induction t generalizing p with
  | nil => simp [after]
  | cons c t ih =>
    have hstep : p + (Extent.zero.push c).point
        = if c = '\n' then ⟨p.row + 1, 0⟩ else ⟨p.row, p.column + c.utf8Size⟩ := by
      by_cases hc : c = '\n' <;> simp [Extent.push, add_def, hc]
    rw [after, Extent.ofText_cons, Extent.point_add, ← add_assoc, hstep]
    split
    · exact ih _
    · exact ih _

theorem after_append (p : Point) (u v : List Char) : p.after (u ++ v) = (p.after u).after v := by
  rw [after_eq_add, after_eq_add, after_eq_add, Extent.ofText_append, Extent.point_add, add_assoc]

/-- **A text is walked over line by line.**  The first line moves the column, and each further line
begins a row of its own. -/
theorem after_eq_foldl_splitOn (p : Point) (t : List Char) :
    p.after t = (t.splitOn '\n').tail.foldl (fun q line => ⟨q.row + 1, Text.byteLength line⟩)
      ⟨p.row, p.column + Text.byteLength ((t.splitOn '\n').headD [])⟩ := by
  induction t generalizing p with
  | nil => simp [after]
  | cons c t ih =>
    have hsplit : (c :: t).splitOn '\n' = if c = '\n' then [] :: t.splitOn '\n'
        else (t.splitOn '\n').modifyHead (c :: ·) := by
      simp [List.splitOn_eq_splitOnP, List.splitOnP_cons_eq_if_modifyHead]
    obtain ⟨line, lines, hlines⟩ := List.exists_cons_of_ne_nil (List.splitOn_ne_nil '\n' t)
    rw [after, hsplit]
    split
    · rw [ih, hlines]
      simp
    · rw [ih, hlines]
      simp [Text.byteLength, Nat.add_assoc]

/-! ## Walking in bytes -/

/-- Walking over a text counts on from the bytes before it. -/
theorem ofBytes_append_encode (bytes : List UInt8) (t : List Char) :
    ofBytes (bytes ++ Utf8.encode t) = (ofBytes bytes).after t := by
  induction t generalizing bytes with
  | nil => simp [Utf8.encode, after]
  | cons c t ih =>
    have hencode : Utf8.encode (c :: t) = String.utf8EncodeChar c ++ Utf8.encode t := rfl
    rw [hencode, ← List.append_assoc, ih, after]
    by_cases hc : c = '\n'
    · subst hc
      have hnewline : String.utf8EncodeChar '\n' = [0x0A] := rfl
      rw [if_pos rfl, hnewline, ofBytes_concat_newline]
    · rw [if_neg hc, ofBytes_append bytes (Utf8.newline_notMem_encodeChar hc),
        String.length_utf8EncodeChar]

end Point

namespace Document

/-! ## The point behind an edit -/

variable (lang : Language)

/-- **Texts act on points, and an edit keeps counting.**  Walking over one text and then over another
is walking over both.  From the start of a text to an offset between its characters the walk counts
the `\n` and the bytes behind the last of them.  So if the point at which an edit begins is counted
like that in the old text, then the point behind the new text that is handed to the tree is counted
like that in the edited text. -/
theorem after_acts :
    (∀ (p : Point) (u v : List Char), p.after (u ++ v) = (p.after u).after v)
      ∧ (∀ (text : List Char) (offset : Nat), Utf8.IsBoundary (Utf8.encode text) offset →
          ∃ front, Text.take? text offset = some front
            ∧ Point.after ⟨0, 0⟩ front = Point.ofBytes ((Utf8.encode text).take offset))
      ∧ ∀ (d d' : Document) (start oldStop : Nat) (new : List Char),
          d.edit lang start oldStop new = (d', none) →
          ∃ c : Change, d'.tree = lang.reparse (d.tree.edit c) d'.text
            ∧ c.start = ⟨start, Text.pointAt d.text start⟩
            ∧ c.newStop = ⟨start + Text.byteLength new, c.start.point.after new⟩
            ∧ (c.start.point = Point.ofBytes ((Utf8.encode d.text).take c.start.bytes) →
              c.newStop.point = Point.ofBytes ((Utf8.encode d'.text).take c.newStop.bytes)) := by
  refine ⟨Point.after_append, fun text offset hoffset => ?_, fun d d' start oldStop new hedit => ?_⟩
  · obtain ⟨front, back, rfl, rfl⟩ := (Utf8.isBoundary_encode_iff _ _).mp hoffset
    refine ⟨front, Text.take?_byteLength front back, ?_⟩
    rw [Utf8.take_encode_byteLength]
    exact (Point.ofBytes_append_encode [] front).symm
  · have hstretch : Replaceable d.text start oldStop := by
      have hspec := (edit_spec lang d start oldStop new).1
      rw [hedit] at hspec
      exact hspec.mp rfl
    obtain ⟨before, old, after, htext, rfl, rfl⟩ := hstretch.exists_append
    obtain ⟨d'', hedit'', htext'', htree, -⟩ := exists_edit_append lang htext new
    obtain rfl : d'' = d' := by
      rw [hedit''] at hedit
      exact (Prod.mk.inj hedit).1
    refine ⟨_, htree, rfl, rfl, fun hstart => ?_⟩
    simp only [change] at hstart ⊢
    rw [hstart, htext, htext'', ← Text.byteLength_append, Utf8.take_encode_byteLength,
      List.append_assoc before old, Utf8.take_encode_byteLength, Utf8.encode_append,
      Point.ofBytes_append_encode]

/-- Behind `\r\n` a letter is replaced by two lines. -/
theorem after_acts_two_lines : Utf8.IsBoundary (Utf8.encode ['é', '\r', '\n', 'b']) 4
    ∧ (∃ front, Text.take? ['é', '\r', '\n', 'b'] 4 = some front
        ∧ Point.after ⟨0, 0⟩ front
          = Point.ofBytes ((Utf8.encode ['é', '\r', '\n', 'b']).take 4))
    ∧ ∃ (d' : Document) (c : Change),
        (Document.ofText Harneet.language ['é', '\r', '\n', 'b']).edit Harneet.language 4 5
          ['x', '\n', 'y'] = (d', none)
        ∧ d'.text = ['é', '\r', '\n', 'x', '\n', 'y']
        ∧ c.start = ⟨4, Point.ofBytes ((Utf8.encode ['é', '\r', '\n', 'b']).take 4)⟩
        ∧ c.newStop = ⟨7, Point.ofBytes ((Utf8.encode d'.text).take 7)⟩ := by
  obtain ⟨-, hslice, hpoint⟩ := after_acts Harneet.language
  have hboundary : Utf8.IsBoundary (Utf8.encode ['é', '\r', '\n', 'b']) 4 :=
    (Utf8.isBoundary_encode_iff _ _).mpr ⟨['é', '\r', '\n'], ['b'], rfl, by decide⟩
  refine ⟨hboundary, hslice _ 4 hboundary, ?_⟩
  obtain ⟨d', hedit, htext, -⟩ := exists_edit_append Harneet.language
    (show (Document.ofText Harneet.language ['é', '\r', '\n', 'b']).text
      = ['é', '\r', '\n'] ++ ['b'] ++ [] from rfl) ['x', '\n', 'y']
  obtain ⟨c, -, hstart, hnew, hcounts⟩ := hpoint _ d' 4 5 ['x', '\n', 'y'] hedit
  have hbegin : c.start = ⟨4, Point.ofBytes ((Utf8.encode ['é', '\r', '\n', 'b']).take 4)⟩ := by
    rw [hstart]
    show Extent.mk 4 (Text.pointAt ['é', '\r', '\n', 'b'] 4) = _
    decide
  have hend : c.newStop.bytes = 7 := by
    rw [hnew]
    show 4 + Text.byteLength ['x', '\n', 'y'] = 7
    decide
  refine ⟨d', c, hedit, htext, hbegin, ?_⟩
  have hcounted := hcounts (by rw [hbegin]; rfl)
  rw [hend] at hcounted
  exact Extent.ext hend hcounted

end Document

end SyntaxKit
