import SyntaxKit.Text.Source

/-!
# Lines and points

Documents and reports count lines more generously than trees do: besides `\n` and `\r\n` a line ends
at a lone `\r`, at U+000B, U+000C, U+0085, U+2028 and U+2029.  `Text.pointAt` gives the line of an
offset, counted like that, and its distance in bytes from the start of the line.  `Point.after`
moves a point over a text in which only `\n` ends a line, and `Text.lines` divides a text like that.
`Text.rows` divides a text generously and keeps what ends a row.
-/

namespace SyntaxKit

namespace Text

/-- Whether a character ends a line, whatever follows it. -/
def isLineBreak (c : Char) : Bool :=
  c == '\n' || c == '\r' || c.toNat == 0xB || c.toNat == 0xC || c.toNat == 0x85
    || c.toNat == 0x2028 || c.toNat == 0x2029

/-- The size in bytes of the line break at the start of a text, if there is one; `\r\n` is one line
break. -/
def lineBreak? : List Char → Option Nat
  | '\r' :: '\n' :: _ => some 2
  | c :: _ => if isLineBreak c then some c.utf8Size else none
  | [] => none

/-- Walks over the rest of a text that begins at `offset` in a row that began at `rowStart`;
`inBreak` says that the next character belongs to a line break already counted. -/
def pointFrom (target : Nat) : List Char → Nat → Nat → Nat → Bool → Point
  | [], _, row, rowStart, _ => ⟨row, target - rowStart⟩
  | c :: rest, offset, row, rowStart, inBreak =>
    if inBreak then pointFrom target rest (offset + c.utf8Size) row rowStart false
    else
      match lineBreak? (c :: rest) with
      | some size =>
        if offset + size ≤ target then
          pointFrom target rest (offset + c.utf8Size) (row + 1) (offset + size)
            (c.utf8Size < size)
        else ⟨row, target - rowStart⟩
      | none => pointFrom target rest (offset + c.utf8Size) row rowStart false

/-- The line of an offset and its distance from the start of the line in bytes.  A line break counts
for the offsets behind it. -/
def pointAt (text : List Char) (offset : Nat) : Point := pointFrom offset text 0 0 0 false

/-- The point of an offset that is not behind the text. -/
def pointAt? (text : List Char) (offset : Nat) : Option Point :=
  if byteLength text < offset then none else some (pointAt text offset)

/-- The rows of a text, each with the line break that ends it.  `row` holds the row so far, its last
character first; a text that ends with a line break has no row behind it. -/
def rowsFrom : List Char → List Char → List (List Char)
  | [], [] => []
  | [], row => [row.reverse]
  | '\r' :: '\n' :: rest, row => (row.reverse ++ ['\r', '\n']) :: rowsFrom rest []
  | c :: rest, row =>
    if isLineBreak c then (row.reverse ++ [c]) :: rowsFrom rest [] else rowsFrom rest (c :: row)

/-- The rows of a text, each with the line break that ends it. -/
def rows (text : List Char) : List (List Char) := rowsFrom text []

/-- The lines of a text that only `\n` and `\r\n` divide, without what ends them.  `line` holds the
line so far, its last character first; a text that ends with a line break has no line behind it. -/
def linesFrom : List Char → List Char → List (List Char)
  | [], [] => []
  | [], line => [line.reverse]
  | '\n' :: rest, '\r' :: line => line.reverse :: linesFrom rest []
  | '\n' :: rest, line => line.reverse :: linesFrom rest []
  | c :: rest, line => linesFrom rest (c :: line)

/-- The lines of a text that only `\n` and `\r\n` divide. -/
def lines (text : List Char) : List (List Char) := linesFrom text []

end Text

namespace Point

/-- The point reached from a point over a text, where `\n` ends a line. -/
def after (start : Point) : List Char → Point
  | [] => start
  | c :: rest =>
    if c = '\n' then after ⟨start.row + 1, 0⟩ rest
    else after ⟨start.row, start.column + c.utf8Size⟩ rest

end Point

end SyntaxKit
