/-!
# Points and extents

A point is a place in a text as an editor shows it: a row and a column, both counted from zero, the
column in bytes.  An extent measures a stretch of text in bytes and, at the same time, as the point
that is reached by walking it from the point `(0, 0)`.  Extents are added like displacements: a
second stretch that contains a line break replaces the column, one that does not moves it.
-/

namespace SyntaxKit

/-- A row and a column, both from zero; the column counts bytes. -/
structure Point where
  row : Nat
  column : Nat
deriving DecidableEq, Repr, Inhabited

namespace Point

/-- The point reached from `a` by a displacement `b`. -/
def add (a b : Point) : Point :=
  if b.row = 0 then ⟨a.row, a.column + b.column⟩ else ⟨a.row + b.row, b.column⟩

/-- The displacement from `b` to `a`, clamped at zero. -/
def sub (a b : Point) : Point :=
  if b.row < a.row then ⟨a.row - b.row, a.column⟩ else ⟨0, a.column - b.column⟩

instance : Add Point := ⟨add⟩
instance : Sub Point := ⟨sub⟩

end Point

/-- The size of a stretch of text, in bytes and as a displacement. -/
structure Extent where
  bytes : Nat
  point : Point
deriving DecidableEq, Repr, Inhabited

namespace Extent

/-- The extent of the empty text. -/
def zero : Extent := ⟨0, ⟨0, 0⟩⟩

/-- The extent of two stretches that follow each other. -/
def add (a b : Extent) : Extent := ⟨a.bytes + b.bytes, a.point + b.point⟩

/-- What is left of `a` after its first part `b`. -/
def sub (a b : Extent) : Extent := ⟨a.bytes - b.bytes, a.point - b.point⟩

instance : Add Extent := ⟨add⟩
instance : Sub Extent := ⟨sub⟩

/-- What is left of `a` after `b`, and nothing at all when `b` is the longer. -/
def monus (a b : Extent) : Extent :=
  if b.bytes < a.bytes then a - b else zero

/-- The extent of `a` followed by one more character. -/
def push (a : Extent) (c : Char) : Extent :=
  if c = '\n' then ⟨a.bytes + 1, ⟨a.point.row + 1, 0⟩⟩
  else ⟨a.bytes + c.utf8Size, ⟨a.point.row, a.point.column + c.utf8Size⟩⟩

/-- The extent of a text. -/
def ofText (text : List Char) : Extent := text.foldl push zero

end Extent

end SyntaxKit
