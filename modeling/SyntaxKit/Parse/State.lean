import SyntaxKit.Lexer.Token
import SyntaxKit.Parse.Stack
import SyntaxKit.Parse.Reuse

/-!
# The state of a parse

A parse holds the stack of its readings, the token read last, the walk over an earlier tree whose
parts may be taken over, and the best complete tree so far.  What does not change during a parse
(language, text, number of the parse) is its `Setting`.

Readings are compared by `Standing`: the cost of their errors, the nodes built since the last one,
and whether they are in recovery at this moment.
-/

namespace SyntaxKit

/-- What stays the same during a parse. -/
structure Setting where
  lang : Language
  source : Source
  generation : Nat
  /-- Bounds the steps of one turn of a reading and the rounds of the parse. -/
  maxSteps : Nat

/-- The setting of a parse of what a source holds.  The bound on the steps grows with the text and is
meant to be out of reach. -/
def Setting.ofSource (lang : Language) (generation : Nat) (source : Source) : Setting :=
  ⟨lang, source, generation, 1000 * (source.suffixes.size + 1000)⟩

/-- A parse in progress. -/
structure Parse where
  stack : Stack
  /-- The token read last and the offset where reading it began. -/
  cached : Option (Nat × Token)
  walk : Tree.Walk
  /-- The best complete tree so far. -/
  finished : Option Tree
  /-- How many complete trees there have been. -/
  accepted : Nat
deriving Inhabited

namespace Parse

/-- How many readings are kept after each round. -/
def maxReadings : Nat := 6

/-- How many readings beyond those may exist within a round. -/
def maxOverflow : Nat := 4

/-- How far down the stack recovery looks for a state to go back to. -/
def maxSummaryDepth : Nat := 16

/-- The difference in cost, weighted by progress, beyond which the dearer reading is given up. -/
def maxCostDifference : Nat := 18 * prices.skippedTree

/-- Applies a change to the stack. -/
def onStack (p : Parse) (f : Stack → Stack) : Parse := { p with stack := f p.stack }

/-! ## Comparing readings -/

/-- How a reading stands in comparison with others. -/
structure Standing where
  cost : Nat
  nodes : Nat
  inError : Bool

/-- The outcome of a comparison: drop one of the two, prefer one of the two, or neither. -/
inductive Verdict where
  | takeLeft
  | preferLeft
  | neither
  | preferRight
  | takeRight
deriving DecidableEq

/-- Compares two readings. -/
def Standing.compare (a b : Standing) : Verdict :=
  if !a.inError && b.inError then
    if a.cost < b.cost then .takeLeft else .preferLeft
  else if a.inError && !b.inError then
    if b.cost < a.cost then .takeRight else .preferRight
  else if a.cost < b.cost then
    if maxCostDifference < (b.cost - a.cost) * (1 + a.nodes) then .takeLeft else .preferLeft
  else if b.cost < a.cost then
    if maxCostDifference < (a.cost - b.cost) * (1 + b.nodes) then .takeRight else .preferRight
  else .neither

/-- How a reading stands; one that waits for recovery pays for the tree it could not use. -/
def standing (p : Parse) (v : Nat) : Parse × Standing :=
  let cost := p.stack.errorCost v
  let paused := p.stack.isPaused v
  let cost := if paused then cost + prices.skippedTree else cost
  let inError := paused || p.stack.state v == ParseState.recovering
  let (stack, nodes) := p.stack.nodesSinceError v
  ({ p with stack }, ⟨cost, nodes, inError⟩)

/-- Compares a reading that would stand as `mine` with the readings from `i` on. -/
def dominatedFrom (v : Nat) (position : Nat) (mine : Standing) :
    Nat → Nat → Parse → Parse × Bool
  | 0, _, p => (p, false)
  | left + 1, i, p =>
    if i = v || !p.stack.isActive i || (p.stack.position i).bytes < position then
      dominatedFrom v position mine left (i + 1) p
    else
      let (p, other) := p.standing i
      match mine.compare other with
      | .takeRight => (p, true)
      | .preferRight =>
        if p.stack.canMerge i v then (p, true)
        else dominatedFrom v position mine left (i + 1) p
      | _ => dominatedFrom v position mine left (i + 1) p

/-- Whether a reading that would have the given cost is not worth pursuing, because a complete tree
or another reading at least as far on is better. -/
def isDominated (p : Parse) (v : Nat) (inError : Bool) (cost : Nat) : Parse × Bool :=
  if (p.finished.map fun t => decide (t.errorCost ≤ cost)).getD false then (p, true)
  else
    let position := (p.stack.position v).bytes
    let (stack, nodes) := p.stack.nodesSinceError v
    let p := { p with stack }
    dominatedFrom v position ⟨cost, nodes, inError⟩ p.stack.count 0 p

/-! ## Choosing between trees -/

/-- Whether the second of two trees for the same text is to be chosen: the cheaper one, the later
one if both have errors, and the one that comes first in the order of shapes if neither has. -/
def prefersSecond (a b : Tree) : Bool :=
  if b.errorCost < a.errorCost then true
  else if a.errorCost < b.errorCost then false
  else if 0 < a.errorCost then true
  else
    match Tree.compareShapes Tree.Walk.maxDepth [(a, b)] with
    | .gt => true
    | _ => false

end Parse

end SyntaxKit
