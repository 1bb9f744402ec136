import SyntaxKit.Text.Extent
import SyntaxKit.Text.Utf8

/-!
# Texts and byte offsets

A text is a list of characters.  Offsets count the bytes of its UTF-8 form, so an offset is the
byte length of a prefix, and `Text.drop? t b` is the rest after the prefix of `b` bytes if some
prefix has that length.  A `Source` is prepared for reading a text at any offset in constant time,
and is made from what is seen at each of its bytes (`Source.ofSeen`).
-/

namespace SyntaxKit

namespace Text

/-- The number of bytes of a text in UTF-8. -/
def byteLength : List Char → Nat
  | [] => 0
  | c :: t => c.utf8Size + byteLength t

/-- The rest of a text after exactly `b` bytes, if a character boundary is there. -/
def drop? : List Char → Nat → Option (List Char)
  | t, 0 => some t
  | [], _ + 1 => none
  | c :: t, b + 1 => if c.utf8Size ≤ b + 1 then drop? t (b + 1 - c.utf8Size) else none

/-- The first `b` bytes of a text, if a character boundary is there. -/
def take? : List Char → Nat → Option (List Char)
  | _, 0 => some []
  | [], _ + 1 => none
  | c :: t, b + 1 =>
    if c.utf8Size ≤ b + 1 then (take? t (b + 1 - c.utf8Size)).map (c :: ·) else none

end Text

namespace Text

/-- What is seen of a text at each of its bytes: a character where it begins, and nothing within
it. -/
def seen (text : List Char) : List (Option Char) :=
  text.flatMap fun c => some c :: List.replicate (c.utf8Size - 1) none

end Text

/-- For every byte offset of a text, the rest of the text from there on. -/
structure Source where
  suffixes : Array (List Char)
deriving Inhabited

namespace Source

/-- Adds the rest of a text from the byte before to its rests from some byte on and from those
behind it, given what is seen at that byte before.  A byte at which no character begins is read as
a replacement. -/
def prepend (seen : Option Char) (rests : List (List Char)) : List (List Char) :=
  match seen with
  | some c => (c :: rests.getD (c.utf8Size - 1) []) :: rests
  | none => (Utf8.replacement :: rests.headD []) :: rests

/-- Prepares for reading what is seen at each byte. -/
def ofSeen (seen : List (Option Char)) : Source := ⟨(seen.foldr prepend [[]]).toArray⟩

/-- Prepares a text for reading. -/
def ofText (text : List Char) : Source := ofSeen (Text.seen text)

/-- The rest of the text from a byte offset on; empty at and past the end. -/
def suffixAt (s : Source) (offset : Nat) : List Char := s.suffixes.getD offset []

end Source

end SyntaxKit
