import SyntaxKit.Text.Source

/-!
# Character indices

A text may also be addressed by counting its characters.  `Text.indexOf` leads from a byte offset to
the index of the character that the byte belongs to and `Text.offsetOf` leads back to the first byte
of that character, so that the two agree exactly at the offsets between characters.  A stretch is
taken out of a text, and a text put in, at indices.
-/

namespace SyntaxKit.Text

/-- The index of the character that a byte belongs to; at the end, the number of characters. -/
def indexOf : List Char → Nat → Nat
  | [], _ => 0
  | c :: t, offset => if offset < c.utf8Size then 0 else indexOf t (offset - c.utf8Size) + 1

/-- The byte offset at which the character with an index begins. -/
def offsetOf (t : List Char) (index : Nat) : Nat := byteLength (t.take index)

/-- A text without its characters from `first` up to `last`. -/
def remove (t : List Char) (first last : Nat) : List Char := t.take first ++ t.drop last

/-- A text with another one put in front of the character with an index. -/
def insert (t : List Char) (index : Nat) (new : List Char) : List Char :=
  t.take index ++ new ++ t.drop index

end SyntaxKit.Text
