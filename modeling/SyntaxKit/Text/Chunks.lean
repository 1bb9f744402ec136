import SyntaxKit.Text.Source

/-!
# Texts in chunks

A text may be kept in chunks, which are cut between characters.  Whoever reads it asks for the bytes
at an offset and is given the rest of the chunk in which the offset lies (`Chunks.readAt`); nothing
is given only at the end of the text and behind it.

A reader keeps the last answer as its `Window` on the text.  At another offset, be it before or
behind, it looks into the window and asks again only where the window does not reach.
`Window.readOn` reads one character after the other in this way until nothing is given.
`Source.ofReader` is all that a reader may come to read, from whatever offset it starts: what it has
seen at each of them, until nothing is given.
-/

namespace SyntaxKit

/-- A text cut into chunks. -/
abbrev Chunks := List (List Char)

namespace Chunks

/-- Cuts a text; `chunk` is the chunk so far, its last character first, and has room for `room` more
characters. -/
def cutFrom (size : Nat) : List Char → Nat → List Char → Chunks
  | [], _, chunk => [chunk.reverse]
  | c :: rest, 0, chunk => chunk.reverse :: cutFrom size rest size [c]
  | c :: rest, room + 1, chunk => cutFrom size rest room (c :: chunk)

/-- Cuts a text into chunks of `size + 1` characters; the last chunk may be shorter, and the empty
text has one empty chunk. -/
def cut (size : Nat) (text : List Char) : Chunks := cutFrom size text (size + 1) []

/-- The number of bytes of a text in chunks. -/
def size (chunks : Chunks) : Nat := Text.byteLength chunks.flatten

/-- The chunk in which an offset lies and the offset at which it begins.  What is between two chunks
lies in the second, and the end of the text in the last. -/
def chunkAt : Chunks → Nat → List Char × Nat
  | [], _ => ([], 0)
  | [chunk], _ => (chunk, 0)
  | chunk :: next :: rest, offset =>
    if offset < Text.byteLength chunk then (chunk, 0)
    else
      let found := chunkAt (next :: rest) (offset - Text.byteLength chunk)
      (found.1, Text.byteLength chunk + found.2)

/-- The bytes from an offset to the end of the chunk in which it lies; an offset behind the text
counts as its end. -/
def readAt (chunks : Chunks) (offset : Nat) : List UInt8 :=
  let byte := min offset chunks.size
  let found := chunks.chunkAt byte
  (Utf8.encode found.1).drop (byte - found.2)

end Chunks

/-- What a reader was given last: some bytes of a text, from an offset on. -/
structure Window where
  start : Nat
  bytes : List UInt8
deriving Repr, DecidableEq

namespace Window

/-- The window of a reader that has not asked yet. -/
def empty : Window := ⟨0, []⟩

/-- Whether a window has a byte at an offset. -/
def holds (w : Window) (offset : Nat) : Bool :=
  w.start ≤ offset && offset < w.start + w.bytes.length

/-- The bytes of a window from an offset on. -/
def behind (w : Window) (offset : Nat) : List UInt8 := w.bytes.drop (offset - w.start)

variable (read : Nat → List UInt8)

/-- The window on what is given at an offset. -/
def ask (offset : Nat) : Window := ⟨offset, read offset⟩

/-- Moves a window to an offset, unless it has a byte there already. -/
def moveTo (w : Window) (offset : Nat) : Window := if w.holds offset then w else ask read offset

/-- Looks at what stands at an offset, and says from which window.  A window may end within a
character, so where it ends before there is one, the reader asks once more. -/
def look (w : Window) (offset : Nat) : Option (Option Char) × Window :=
  let w := w.moveTo read offset
  let bytes := w.behind offset
  if Utf8.first? bytes = some none ∧ bytes.length < 4 then
    (Utf8.first? (read offset), ask read offset)
  else (Utf8.first? bytes, w)

/-- Reads up to `left` characters from an offset on, with a replacement for each byte that begins
none. -/
def readOn : Nat → Window → Nat → List Char
  | 0, _, _ => []
  | left + 1, w, offset =>
    match w.look read offset with
    | (none, _) => []
    | (some none, w) => Utf8.replacement :: readOn left w (offset + 1)
    | (some (some c), w) => c :: readOn left w (offset + c.utf8Size)

/-- What is seen at up to `left` offsets from one on, until nothing is given. -/
def looks : Nat → Window → Nat → List (Option Char)
  | 0, _, _ => []
  | left + 1, w, offset =>
    match w.look read offset with
    | (none, _) => []
    | (some seen, w) => seen :: looks left w (offset + 1)

end Window

/-- What can be read of a text of at most `size` bytes that is given from any offset on. -/
def Source.ofReader (read : Nat → List UInt8) (size : Nat) : Source :=
  ofSeen (Window.looks read size Window.empty 0)

end SyntaxKit
