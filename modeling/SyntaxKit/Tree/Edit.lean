import SyntaxKit.Tree.Rebuild

/-!
# Marking an edit in a tree

When a stretch of a text is replaced, the tree of the old text can be prepared for parsing the new
one: every node whose text was touched, or whose recognition had looked at the stretch, is marked as
changed, and sizes are adjusted so that everything behind the stretch is at its new place.

The inserted text is counted to the first subtree that touches the stretch; subtrees behind it that
overlap the stretch only shrink.
-/

namespace SyntaxKit

/-- A replacement, in the coordinates of some tree: the stretch from `start` to `oldStop` was
replaced by text that now ends at `newStop`. -/
structure Change where
  start : Extent
  oldStop : Extent
  newStop : Extent
deriving Repr, Inhabited

namespace Change

variable (c : Change)

/-- Whether nothing is replaced by nothing. -/
def isVoid : Bool := c.oldStop.bytes == c.start.bytes && c.newStop.bytes == c.start.bytes

/-- Whether text is inserted and none is removed. -/
def isInsertion : Bool := c.oldStop.bytes == c.start.bytes

/-- Whether a subtree is out of reach of the change. -/
def misses (t : Tree) : Bool :=
  let reach := t.totalSize.bytes + t.lookahead
  reach < c.start.bytes || (c.isVoid && c.start.bytes == reach)

/-- The padding and the size of a subtree after the change. -/
def resize (padding size : Extent) : Extent × Extent :=
  let total := padding + size
  if c.oldStop.bytes ≤ padding.bytes then (c.newStop + (padding - c.oldStop), size)
  else if c.start.bytes < padding.bytes then (c.newStop, size.monus (c.oldStop - padding))
  else if c.start.bytes < total.bytes || (c.start.bytes == total.bytes && c.isInsertion) then
    (padding, (c.newStop - padding) + total.monus c.oldStop)
  else (padding, size)

/-- The change seen from a subtree that begins at `left`. -/
def shift (left : Extent) : Change :=
  ⟨c.start.monus left, c.oldStop.monus left, c.newStop.monus left⟩

/-- Hands the change on to those children it can reach.  `left` is where the first child begins and
`isFirst` whether it is the first of all. -/
def distribute : Change → List Tree → Extent → Bool → List (Tree × Option Change)
  | _, [], _, _ => []
  | c, child :: rest, left, isFirst =>
    let size := child.totalSize
    let right := left + size
    if right.bytes + child.lookahead < c.start.bytes then
      (child, none) :: distribute c rest right false
    else if c.oldStop.bytes < left.bytes
        || (left.bytes == c.oldStop.bytes && 0 < size.bytes && !isFirst) then
      (child :: rest).map (·, none)
    else
      let own := c.shift left
      if c.start.bytes < right.bytes || (right.bytes == c.start.bytes && c.isInsertion) then
        (child, some own) :: distribute { c with newStop := c.start } rest right false
      else
        (child, some { own with oldStop := own.start, newStop := own.start })
          :: distribute c rest right false

@[simp] theorem map_fst_distribute (c : Change) (ts : List Tree) (left : Extent) (isFirst : Bool) :
    (c.distribute ts left isFirst).map (·.1) = ts := by
  induction ts generalizing c left isFirst with
  | nil => simp [distribute]
  | cons t ts ih =>
    simp only [distribute]
    split
    · simp [ih]
    · split
      · simp [Function.comp_def]
      · split <;> simp [ih]

/-- Applies the change to the root of a subtree and hands it on. -/
def step (c : Change) (t : Tree) : Tree.Rebuilt Change t :=
  if c.misses t then .done t
  else
    match t with
    | .token k =>
      let (padding, size) := c.resize k.padding k.size
      .done (.token { k with padding, size, changed := true })
    | .branch b cs =>
      let (padding, size) := c.resize b.padding b.size
      .node { b with padding, size, changed := true } (c.distribute cs Extent.zero true) (by simp)

end Change

namespace Tree

/-- Marks a change of the text in its tree. -/
def edit (t : Tree) (c : Change) : Tree := t.rebuild Change.step c

end Tree

end SyntaxKit
