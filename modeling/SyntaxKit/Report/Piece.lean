/-!
# Coloured text

A line of a report is made of pieces, and a piece is a stretch of text in one colour or in none.  A
colour is switched on in front of its piece and off behind it by terminal control sequences.
-/

namespace SyntaxKit

namespace Report

/-- The colours of a report. -/
inductive Color where
  /-- What is wrong with the text. -/
  | red
  /-- What is missing from the text. -/
  | yellow
  /-- The margin at a row of the text. -/
  | margin
  /-- The margin between rows of the text. -/
  | faintMargin
  /-- Text that is only shown for its surroundings. -/
  | plain
deriving DecidableEq, Repr

/-- The number of a colour in a control sequence. -/
def Color.code : Color → String
  | .red => "31"
  | .yellow => "33"
  | .margin => "38;5;246"
  | .faintMargin => "38;5;240"
  | .plain => "38;5;249"

/-- A stretch of text in one colour or in none. -/
structure Piece where
  color : Option Color
  text : String
deriving DecidableEq, Repr

namespace Piece

/-- A stretch of text in a colour. -/
def colored (color : Color) (text : String) : Piece := ⟨some color, text⟩

/-- A stretch of text in no colour. -/
def bare (text : String) : Piece := ⟨none, text⟩

/-- One character in a colour. -/
def cell (color : Color) (c : Char) : Piece := ⟨some color, String.ofList [c]⟩

/-- An empty cell. -/
def blank : Piece := bare " "

/-- A piece with its control sequences. -/
def render (p : Piece) : String :=
  match p.color with
  | none => p.text
  | some color => "\x1b[" ++ color.code ++ "m" ++ p.text ++ "\x1b[0m"

end Piece

/-- The text of a line of pieces, with the line feed that ends it. -/
def renderLine (line : List Piece) : String := String.join (line.map Piece.render) ++ "\n"

end Report

end SyntaxKit
