import SyntaxKit.Diagnostics.SyntaxError
import SyntaxKit.Report.Piece
import SyntaxKit.Text.Lines
import SyntaxKit.Text.Width

/-!
# Reports

A report shows one syntax error in its place: a header with the message, the file and the position,
then the rows of the text that the error covers, and below them the message again at the end of an
arrow.  In one row the error is underlined and the arrow hangs from the middle of it.  Over several
rows only the first and the last are shown, and a bar on their left leads from one to the other.

`Report.ofError?` finds the rows and columns of an error.  It fails if the ends of the error, as
`Span.display` gives them, do not lie between characters of the text, since then no row can be cut
there.
-/

namespace SyntaxKit

/-- A place in a text: a row, and the number of characters before it in that row, both from zero. -/
structure Report.Place where
  row : Nat
  column : Nat
deriving DecidableEq, Repr, Inhabited

/-- A report of an error that covers the text from `first` up to `last`. -/
structure Report where
  code : String
  color : Report.Color
  message : String
  file : String
  rows : List (List Char)
  first : Report.Place
  last : Report.Place
deriving Repr

namespace Report

/-! ## Finding the place -/

/-- The place in front of a byte, if a character begins there. -/
def placeBefore? (text : List Char) (offset : Nat) : Option Place :=
  let p := Text.pointAt text offset
  ((Text.rows text)[p.row]?.bind (Text.take? · p.column)).map fun before =>
    ⟨p.row, before.length⟩

/-- The place behind a byte, if a character ends there; it is in the row of that byte. -/
def placeBehind? (text : List Char) (offset : Nat) : Option Place :=
  let p := Text.pointAt text offset
  ((Text.rows text)[p.row]?.bind (Text.take? · (p.column + 1))).map fun before =>
    ⟨p.row, before.length⟩

/-- The word in brackets in front of a report. -/
def codeOf : SyntaxError.Cause → String
  | .unexpected => "syntax"
  | .missing _ => "missing"

/-- The colour of an error. -/
def colorOf : SyntaxError.Cause → Color
  | .unexpected => .red
  | .missing _ => .yellow

/-- The report of an error in a text. -/
def ofError? (text : List Char) (file : String) (e : SyntaxError) : Option Report :=
  let span := Span.display e.first e.last (Text.byteLength text)
  (placeBefore? text span.1).bind fun first =>
    (placeBehind? text (span.2 - 1)).map fun last =>
      { code := codeOf e.cause, color := colorOf e.cause, message := e.message, file
        rows := Text.rows text, first, last }

/-! ## Margins -/

variable (r : Report)

/-- The text of a row, without the blanks at its end. -/
def rowText (row : Nat) : List Char := Text.trimEnd (r.rows.getD row [])

/-- The room for line numbers. -/
def numberWidth : Nat := (toString (r.last.row + 1)).length

/-- A number of spaces. -/
def spaces (n : Nat) : String := String.ofList (List.replicate n ' ')

/-- The margin at a row of the text, with its number. -/
def numberMargin (row : Nat) : List Piece :=
  let number := toString (row + 1)
  [.blank, .colored .margin (spaces (r.numberWidth - number.length) ++ number ++ " │"), .blank]

/-- The margin between rows of the text. -/
def faintMargin (bar : String) : List Piece :=
  [.blank, .colored .faintMargin (spaces (r.numberWidth + 1) ++ bar), .blank]

/-! ## Rows of the text -/

/-- Whether a character belongs to the error. -/
def covers (row column : Nat) : Bool :=
  (r.first.row < row || r.first.row == row && r.first.column ≤ column)
    && (row < r.last.row || row == r.last.row && column < r.last.column)

/-- A row of the text, its error in colour.  Blank characters are drawn as spaces. -/
def textCells (row : Nat) : List Piece :=
  (r.rowText row).zipIdx.flatMap fun (c, column) =>
    let color := if r.covers row column then r.color else .plain
    if Text.isBlank c then List.replicate (Text.widthAt column c) (.cell color ' ')
    else [.cell color c]

/-- A line below a row: `draw` gives for each column what stands at its first cell and at the cells
after it, of which there are as many as the character above is wide. -/
def below (row columns : Nat) (draw : Nat → Piece × Piece) : List Piece :=
  (List.range columns).flatMap fun column =>
    let width := ((r.rowText row)[column]?.map (Text.widthAt column)).getD 1
    let (head, tail) := draw column
    if width = 0 then [] else head :: List.replicate (width - 1) tail

/-- The columns of an arrow behind the end of its error. -/
def arrowTail : Nat := 2

/-- A character in the colour of the error. -/
def ink (c : Char) : Piece := .cell r.color c

/-! ## An error in one row -/

/-- The column from which the arrow hangs. -/
def middle : Nat := (r.first.column + r.last.column) / 2

/-- The underline of an error. -/
def underline (column : Nat) : Piece × Piece :=
  if column = r.middle then (r.ink '┬', r.ink '─')
  else if r.covers r.first.row column then (r.ink '─', r.ink '─')
  else (.blank, .blank)

/-- The arrow from the middle of an error to the message. -/
def arrow (column : Nat) : Piece × Piece :=
  if column = r.middle then (r.ink '╰', r.ink '─')
  else if r.middle < column then (r.ink '─', r.ink '─')
  else (.blank, .blank)

/-- The message behind an arrow. -/
def label : List Piece := [.bare (" " ++ r.message)]

/-- The lines that show an error in one row. -/
def rowLines : List (List Piece) :=
  let row := r.first.row
  let columns := r.last.column + arrowTail
  [r.numberMargin row ++ r.textCells row,
    r.faintMargin "│" ++ r.below row columns r.underline,
    r.faintMargin "│" ++ r.below row columns r.arrow ++ r.label]

/-! ## An error over several rows -/

/-- A row of the text with an arrow that points at it. -/
def pointedRow (row : Nat) (corner : Char) : List Piece :=
  r.numberMargin row ++ [r.ink corner, r.ink '─', r.ink '▶', r.ink ' '] ++ r.textCells row

/-- The line that stands for the rows between the first and the last. -/
def skippedRows : List (List Piece) :=
  if r.first.row + 1 < r.last.row then
    [r.faintMargin "┆" ++ [r.ink '┆', .blank, .blank, .blank]]
  else []

/-- The lines that show an error over several rows. -/
def rowsLines : List (List Piece) :=
  let last := r.last.row
  let columns := (r.rows.getD last []).length + arrowTail
  [r.pointedRow r.first.row '╭'] ++ r.skippedRows ++ [r.pointedRow last '├',
    r.faintMargin "│" ++ [r.ink '│', .blank, .blank, .blank]
      ++ r.below last columns (fun _ => (.blank, .blank)),
    r.faintMargin "│" ++ [r.ink '╰', r.ink '─', r.ink '─', r.ink '─']
      ++ r.below last columns (fun _ => (r.ink '─', r.ink '─')) ++ r.label]

/-! ## The report -/

/-- The position that a report names: the file, the line and the column, both from one. -/
def position : String :=
  r.file ++ ":" ++ toString (r.first.row + 1) ++ ":" ++ toString (r.first.column + 1)

/-- The lines above the rows of the text. -/
def header : List (List Piece) :=
  let indent := Piece.bare (spaces (r.numberWidth + 2))
  [[.colored .red ("[" ++ r.code ++ "] Error:"), .bare (" " ++ r.message)],
    [indent, .cell .margin '╭', .cell .margin '─', .cell .margin '[',
      .bare (" " ++ r.position ++ " "), .cell .margin ']'],
    [indent, .cell .margin '│']]

/-- The lines that show the error in its place. -/
def body : List (List Piece) := if r.first.row = r.last.row then r.rowLines else r.rowsLines

/-- The line below a report. -/
def footer : List Piece :=
  [.colored .margin (String.ofList (List.replicate (r.numberWidth + 2) '─') ++ "╯")]

/-- The text of a report. -/
def render : String := String.join ((r.header ++ r.body ++ [r.footer]).map renderLine)

end Report

namespace Report

/-- The reports of some errors in a text, one below the other. -/
def renderAll? (text : List Char) (file : String) (errors : List SyntaxError) : Option String :=
  (errors.mapM (ofError? text file)).map fun reports => String.join (reports.map render)

end Report

end SyntaxKit
