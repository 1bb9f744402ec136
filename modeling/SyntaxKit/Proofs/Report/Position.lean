import SyntaxKit.Proofs.Diagnostics.Span
import SyntaxKit.Proofs.Document.Points
import SyntaxKit.Proofs.Text.Rows
import SyntaxKit.Report.Basic

/-!
# The position that a report names

A report finds its error in the rows of the text, which end at line breaks of all kinds, while the tree
that the error comes from counts only `\n`.  So the line and the column that a report names are those
of the rows (`Report.exists_ofError?`), and they are those of the tree just if all rows before the error
end with `\n` (`Document.Reached.report_position`).  They are written below the title of the report
(`Report.exists_render`).
-/

namespace SyntaxKit

namespace Report

variable {text before : List Char} {file : String} {e : SyntaxError}

/-! ## Finding the place -/

/-- In front of a character begins its place: behind the rows before it, and behind what is before it in
its own row. -/
theorem exists_placeBefore? (hbefore : before <+: text)
    (hlt : Text.byteLength before < Text.byteLength text) :
    ∃ done row front, Text.InRow (Text.byteLength before) (Text.rows text) done row
      ∧ before = done.flatten ++ front ∧ front <+: row
      ∧ placeBefore? text (Text.byteLength before) = some ⟨done.length, front.length⟩ := by
  obtain ⟨done, row, hin, hpoint⟩ := Text.exists_pointAt hlt
  obtain ⟨front, hfront, hprefix, htake⟩ := hin.exists_front hbefore hin.behind hin.inside.le
  refine ⟨done, row, front, hin, hfront, hprefix, ?_⟩
  rw [placeBefore?, hpoint]
  simp [hin.getElem?, htake]

/-- Behind a character there is a place. -/
theorem exists_placeBehind? (hbefore : before <+: text) (hne : before ≠ []) :
    ∃ place, placeBehind? text (Text.byteLength before - 1) = some place := by
  have hpos : 0 < Text.byteLength before :=
    Nat.pos_of_ne_zero fun hzero => hne (Text.byteLength_eq_zero.mp hzero)
  have hle : Text.byteLength before ≤ Text.byteLength text := by
    obtain ⟨back, rfl⟩ := hbefore
    simp
  obtain ⟨done, row, hin, hpoint⟩ :=
    Text.exists_pointAt (show Text.byteLength before - 1 < Text.byteLength text by omega)
  have hlow := hin.behind
  have hhigh := hin.inside
  obtain ⟨front, -, -, htake⟩ := hin.exists_front hbefore (by omega) (by omega)
  have hcolumn : Text.byteLength before - 1 - Text.byteLength done.flatten + 1
      = Text.byteLength before - Text.byteLength done.flatten := by
    omega
  refine ⟨⟨done.length, front.length⟩, ?_⟩
  rw [placeBehind?, hpoint]
  simp [hin.getElem?, hcolumn, htake]

/-! ## What is written -/

/-- The line of a report that names a position. -/
def positionLine (indent position : String) : List Piece :=
  [.bare indent, .cell .margin '╭', .cell .margin '─', .cell .margin '[',
    .bare (" " ++ position ++ " "), .cell .margin ']']

/-- The position stands below the title of a report. -/
theorem exists_render (r : Report) : ∃ title indent below,
    r.render = renderLine title ++ renderLine (positionLine indent r.position) ++ below := by
  refine ⟨[.colored .red ("[" ++ r.code ++ "] Error:"), .bare (" " ++ r.message)],
    spaces (r.numberWidth + 2), String.join
      (([.bare (spaces (r.numberWidth + 2)), .cell .margin '│'] :: r.body ++ [r.footer]).map
        renderLine), ?_⟩
  apply String.toList_injective
  simp [render, header, positionLine, String.toList_join]

/-- **An error between two positions of a text has a report**, and the position that the report names is
told by the rows before the error and by what is before it in its own row. -/
theorem exists_ofError? {body : List Char} (hbody : before ++ body <+: text) (hne : body ≠ [])
    (hfirst : e.first = Text.byteLength before) (hlast : e.last = Text.byteLength (before ++ body))
    (file : String) : ∃ report done row front, ofError? text file e = some report
      ∧ Text.InRow e.first (Text.rows text) done row ∧ before = done.flatten ++ front ∧ front <+: row
      ∧ report.position = file ++ ":" ++ toString (done.length + 1) ++ ":"
        ++ toString (front.length + 1) := by
  have hlength := Nat.pos_of_ne_zero fun hzero => hne (Text.byteLength_eq_zero.mp hzero)
  rw [Text.byteLength_append] at hlast
  have hle : e.last ≤ Text.byteLength text := by
    obtain ⟨back, rfl⟩ := hbody
    simp only [Text.byteLength_append]
    omega
  have hspan : Span.display e.first e.last (Text.byteLength text) = (e.first, e.last) :=
    Span.display_of_inside ⟨by dsimp only; omega, hle⟩
  obtain ⟨done, row, front, hin, hsplit, hprefix, hplace⟩ :=
    exists_placeBefore? ((List.prefix_append before body).trans hbody) (by omega)
  obtain ⟨behind, hbehind⟩ := exists_placeBehind? hbody (by simp [hne])
  rw [← hfirst] at hin hplace
  rw [Text.byteLength_append, ← hlast] at hbehind
  rw [ofError?, hspan]
  dsimp only
  rw [hplace, hbehind]
  exact ⟨_, done, row, front, rfl, hin, hsplit, hprefix, rfl⟩

end Report

namespace Document

/-- **A report names the line and the column of its error in the rows of the text.**  Every error of a
document that is not empty has a report.  The line that it names, below its title, is one more than the
rows before the row that the error begins in, and the column is one more than the characters before the
error in that row.  The line is one more than the row of the error in the tree just if each of the rows
before ends with `\n`, and then the column is one more than the characters behind the last `\n` before
the error. -/
theorem Reached.report_position {text : List Char} {d : Document}
    (h : Reached Harneet.language text d) (file : String) {e : SyntaxError}
    (he : e ∈ d.tree.syntaxErrors Harneet.language d.text) (hrange : e.first < e.last) :
    ∃ report done row front, Report.ofError? d.text file e = some report
      ∧ Text.InRow e.first (Text.rows d.text) done row
      ∧ done.flatten ++ front <+: d.text ∧ Text.byteLength (done.flatten ++ front) = e.first
      ∧ report.position = file ++ ":" ++ toString (done.length + 1) ++ ":"
        ++ toString (front.length + 1)
      ∧ (∃ title indent below, report.render = Report.renderLine title
        ++ Report.renderLine (Report.positionLine indent (file ++ ":" ++ toString (done.length + 1)
          ++ ":" ++ toString (front.length + 1))) ++ below)
      ∧ (done.length = e.start.row ↔ ∀ r ∈ done, r.getLast? = some '\n')
      ∧ ((∀ r ∈ done, r.getLast? = some '\n') →
        front.length = (Text.lastLine (done.flatten ++ front)).length) := by
  have hparsed := h.parsed_of_stable Harneet.orderly
    (Cutting.stable_atPositions Harneet.orderly Harneet.lossless)
  obtain ⟨enter, n, hn, hnode⟩ := Tree.exists_node_of_mem_syntaxErrors Harneet.language he
  obtain ⟨before, body, hbody, hstart, hstop⟩ := hparsed.stands enter n hn
  obtain ⟨hfirst, hlast, hpoint⟩ :=
    SyntaxError.place_ofNode Harneet.language (Source.ofText d.text) n
  rw [hnode, hstart, Extent.bytes_ofText] at hfirst
  rw [hnode, hstop, Extent.bytes_ofText] at hlast
  rw [hnode, hstart, Extent.point_ofText] at hpoint
  have hne : body ≠ [] := by
    rintro rfl
    rw [List.append_nil] at hlast
    omega
  obtain ⟨report, done, row, front, hreport, hin, rfl, hprefix, hposition⟩ :=
    Report.exists_ofError? hbody hne hfirst hlast file
  have hfront : '\n' ∉ front := (hfirst ▸ hin).newline_notMem hprefix
  have hdone : ∀ r ∈ done, '\n' ∉ r.dropLast := fun r hr =>
    Text.newline_notMem_dropLast (hin.begins.subset (List.mem_append_left _ hr))
  have hrow : e.start.row = done.flatten.count '\n' := by
    rw [hpoint, List.count_append, List.count_eq_zero.mpr hfront, Nat.add_zero]
  refine ⟨report, done, row, front, hreport, hin, (List.prefix_append _ body).trans hbody,
    hfirst.symm, hposition, hposition ▸ report.exists_render, ?_, fun hends => ?_⟩
  · rw [hrow]
    exact Text.count_newline_eq_iff hdone
  · rw [Text.lastLine_append_of_notMem _ hfront, Text.lastLine_flatten hends, List.nil_append]

/-- The error of `@`. -/
def strayError (row column : Nat) : SyntaxError :=
  ⟨.unexpected, 1, 2, ⟨row, column⟩, "unexpected `@`"⟩

/-- Behind a line break the error of `@` has a report, which names a place in the rows of the text. -/
theorem Reached.report_position_newline : (strayError 1 0).first < (strayError 1 0).last
    ∧ ∃ report done row, ∃ front : List Char,
      Report.ofError? ['\n', '@'] "main.ha" (strayError 1 0) = some report
        ∧ Text.InRow 1 (Text.rows ['\n', '@']) done row
        ∧ report.position = "main.ha" ++ ":" ++ toString (done.length + 1) ++ ":"
          ++ toString (front.length + 1)
        ∧ (done.length = 1 ↔ ∀ r ∈ done, r.getLast? = some '\n') := by
  have herror : strayError 1 0 ∈ (Document.ofText Harneet.language ['\n', '@']).tree.syntaxErrors
      Harneet.language ['\n', '@'] := by
    rw [tree_ofText]
    decide +kernel
  obtain ⟨report, done, row, front, hreport, hin, -, -, hposition, -, hline, -⟩ :=
    Reached.report_position .ofText "main.ha" herror (by decide)
  exact ⟨by decide, report, done, row, front, hreport, hin, hposition, hline⟩

/-- **Behind a carriage return the position is not that of the tree.**  The error of `@` there is not
empty, and its report names the second line and the first column.  But it is in the first row of the
tree, and one character is behind the start of the text. -/
theorem report_position_return :
    strayError 0 1 ∈ (Harneet.language.parse ['\r', '@']).syntaxErrors Harneet.language ['\r', '@']
      ∧ (strayError 0 1).first < (strayError 0 1).last
      ∧ (Report.ofError? ['\r', '@'] "main.ha" (strayError 0 1)).map Report.position
        = some "main.ha:2:1"
      ∧ (strayError 0 1).first = Text.byteLength ['\r']
      ∧ "main.ha" ++ ":" ++ toString ((strayError 0 1).start.row + 1) ++ ":"
        ++ toString ((Text.lastLine ['\r']).length + 1) = "main.ha:1:2" := by
  decide +kernel

end Document

end SyntaxKit
