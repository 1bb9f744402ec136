import SyntaxKit.Text.Ranges

/-!
# Blank characters

The characters with the Unicode property `White_Space`, and trimming them off a text.
-/

namespace SyntaxKit

namespace Text

/-- The code points with the property `White_Space`, as inclusive ranges. -/
def blankRanges : List (Nat × Nat) :=
  [(0x9, 0xD), (0x20, 0x20), (0x85, 0x85), (0xA0, 0xA0), (0x1680, 0x1680), (0x2000, 0x200A),
    (0x2028, 0x2029), (0x202F, 0x202F), (0x205F, 0x205F), (0x3000, 0x3000)]

/-- Whether a character is blank. -/
def isBlank (c : Char) : Bool := inRanges blankRanges c

/-- A text without the blank characters at its start. -/
def trimStart (t : List Char) : List Char := t.dropWhile isBlank

/-- A text without the blank characters at its end. -/
def trimEnd (t : List Char) : List Char := (t.reverse.dropWhile isBlank).reverse

/-- A text without the blank characters at its start and end. -/
def trim (t : List Char) : List Char := trimEnd (trimStart t)

/-- The first line of a text, without the `\n` or `\r\n` that ends it. -/
def firstLine (t : List Char) : List Char :=
  match t.span (· != '\n') with
  | (line, []) => line
  | (line, _ :: _) => if line.getLast? = some '\r' then line.dropLast else line

end Text

end SyntaxKit
