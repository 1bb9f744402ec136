import SyntaxKit.Text.Extent
import SyntaxKit.Language.Basic

/-!
# Syntax trees

A tree is a token or a branch over a list of subtrees.  Every tree begins with padding, the blank
space (and nothing else) before its first token, and then has a size; the root's padding and size
together cover the text, and so do those of any node its part of it.  Positions are not stored:
they are the sum of what stands to the left, which is why a subtree keeps its meaning when it moves.

Besides its children a branch stores what parsing needs to know about them without looking: the cost
of the errors inside, how many visible nodes there are, the first token, and how far past its end
the text was looked at.  `Tree.ofChildren` computes all of it from the children; an edit of the text
may later change the sizes without touching the rest.
-/

namespace SyntaxKit

/-- The prices by which alternative readings of a broken text are compared. -/
structure Prices where
  recovery : Nat
  missingTree : Nat
  skippedTree : Nat
  skippedByte : Nat
  skippedLine : Nat

/-- An error costs as much as five skipped trees, a tree as much as a hundred bytes. -/
def prices : Prices := ⟨500, 110, 100, 1, 30⟩

/-- A token of a tree: how it was read, and what has happened to it since. -/
structure Token where
  symbol : Symbol
  padding : Extent
  size : Extent
  /-- Bytes past the end of the token that had to be looked at to recognise it. -/
  lookahead : Nat
  /-- The parse state in which the token was read. -/
  state : ParseState
  /-- Whether the text begins like a keyword. -/
  keyword : Bool
  /-- The token is not in the text; the parser made it up to go on. -/
  missing : Bool
  extra : Bool
  changed : Bool
  /-- For a token in error, the character at which reading failed (NUL at the end of the text). -/
  culprit : Char
deriving Repr, Inhabited

/-- What a branch stores besides its children. -/
structure Branch where
  symbol : Symbol
  production : Nat
  padding : Extent
  size : Extent
  lookahead : Nat
  /-- The state below the node; unknown when the node was built while several readings competed. -/
  state : Option ParseState
  extra : Bool
  changed : Bool
  /-- The node may not be taken over into another tree because of its left end. -/
  fragileLeft : Bool
  /-- The node may not be taken over into another tree because of its right end. -/
  fragileRight : Bool
  errorCost : Nat
  visibleChildren : Nat
  namedChildren : Nat
  visibleDescendants : Nat
  /-- The height of a list that is represented as nested pairs. -/
  repeatDepth : Nat
  firstSymbol : Symbol
  firstState : Option ParseState
  /-- The number of the parse that built the node. -/
  generation : Nat
deriving Repr, Inhabited

/-- A syntax tree. -/
inductive Tree where
  | token (t : Token)
  | branch (b : Branch) (children : List Tree)
deriving Inhabited

namespace Tree

/-- The label of the root. -/
def symbol : Tree → Symbol
  | token t => t.symbol
  | branch b _ => b.symbol

/-- The subtrees. -/
def children : Tree → List Tree
  | token _ => []
  | branch _ cs => cs

/-- The blank space before the first token. -/
def padding : Tree → Extent
  | token t => t.padding
  | branch b _ => b.padding

/-- The text from the first token to the last. -/
def size : Tree → Extent
  | token t => t.size
  | branch b _ => b.size

/-- All the text that the tree stands for. -/
def totalSize (t : Tree) : Extent := t.padding + t.size

/-- How many bytes past the end the text was looked at. -/
def lookahead : Tree → Nat
  | token t => t.lookahead
  | branch b _ => b.lookahead

/-- Whether the tree stands beside the grammar, like a comment. -/
def isExtra : Tree → Bool
  | token t => t.extra
  | branch b _ => b.extra

/-- Whether an edit has touched the text of the tree. -/
def isChanged : Tree → Bool
  | token t => t.changed
  | branch b _ => b.changed

/-- Whether the tree is a token that is not in the text. -/
def isMissing : Tree → Bool
  | token t => t.missing
  | branch .. => false

/-- Whether the tree stands for text that could not be parsed. -/
def isError (t : Tree) : Bool := t.symbol == Symbol.error

/-- Whether the tree is the token at the end of the text. -/
def isEndOfText (t : Tree) : Bool := t.symbol == Symbol.endOfText

/-- Whether the tree is a token that begins like a keyword. -/
def isKeyword : Tree → Bool
  | token t => t.keyword
  | branch .. => false

/-- Whether the left end forbids taking the tree over. -/
def isFragileLeft : Tree → Bool
  | token t => t.symbol == Symbol.error
  | branch b _ => b.fragileLeft

/-- Whether the right end forbids taking the tree over. -/
def isFragileRight : Tree → Bool
  | token t => t.symbol == Symbol.error
  | branch b _ => b.fragileRight

/-- The cost of the errors inside. -/
def errorCost : Tree → Nat
  | token t => if t.missing then prices.missingTree + prices.recovery else 0
  | branch b _ => b.errorCost

/-- The height of a list represented as nested pairs. -/
def repeatDepth : Tree → Nat
  | token _ => 0
  | branch b _ => b.repeatDepth

/-- How many visible nodes are below the root. -/
def visibleDescendants : Tree → Nat
  | token _ => 0
  | branch b _ => b.visibleDescendants

/-- How many visible nodes are reached from the root through invisible ones only. -/
def visibleChildren : Tree → Nat
  | token _ => 0
  | branch b _ => b.visibleChildren

/-- How many of the visible children stand for rules of the grammar. -/
def namedChildren : Tree → Nat
  | token _ => 0
  | branch b _ => b.namedChildren

/-- The parse state in which the tree was begun, if that is known. -/
def state? : Tree → Option ParseState
  | token t => some t.state
  | branch b _ => b.state

/-- The symbol of the first token. -/
def firstSymbol : Tree → Symbol
  | token t => t.symbol
  | branch b [] => b.symbol
  | branch b (_ :: _) => b.firstSymbol

/-- The parse state in which the first token was read, if that is known. -/
def firstState? : Tree → Option ParseState
  | token t => some t.state
  | branch b [] => b.state
  | branch b (_ :: _) => b.firstState

/-- Whether there are no subtrees. -/
def isLeaf (t : Tree) : Bool := t.children.isEmpty

/-- Marks or unmarks a token as standing beside the grammar. -/
def setExtra (extra : Bool) : Tree → Tree
  | token t => token { t with extra }
  | branch b cs => branch { b with extra } cs

/-! ### The number of nodes, by which walks over a tree come to an end -/

mutual

/-- How many nodes a tree has. -/
def weight : Tree → Nat
  | token _ => 1
  | branch _ cs => weights cs + 1

/-- How many nodes some trees have together. -/
def weights : List Tree → Nat
  | [] => 0
  | t :: ts => weight t + weights ts

end

@[simp] theorem weights_nil : weights [] = 0 := by rw [weights]

@[simp] theorem weights_cons (t : Tree) (ts : List Tree) :
    weights (t :: ts) = t.weight + weights ts := by rw [weights]

@[simp] theorem weight_branch (b : Branch) (cs : List Tree) :
    (branch b cs).weight = weights cs + 1 := by rw [weight]

@[simp] theorem weights_append (ts us : List Tree) :
    weights (ts ++ us) = weights ts + weights us := by
  induction ts with
  | nil => simp
  | cons t ts ih => simp [ih, Nat.add_assoc]

theorem weight_pos (t : Tree) : 0 < t.weight := by
  cases t <;> simp [weight]

theorem weights_children_lt (t : Tree) : weights t.children < t.weight := by
  cases t <;> simp [children, weight]

end Tree

/-! ## Summaries -/

namespace Branch

variable (lang : Language)

/-- Whether a node collects text that could not be parsed. -/
def holdsErrors (b : Branch) : Bool := b.symbol == Symbol.error || b.symbol == Symbol.skipped

/-- What one child adds to the price of the error node `b` that holds it. -/
def skippedTreePrice (b : Branch) (child : Tree) : Nat :=
  if b.holdsErrors && !child.isExtra && !(child.isError && child.isLeaf) then
    if lang.isVisible child.symbol then prices.skippedTree
    else prices.skippedTree * child.visibleChildren
  else 0

/-- Takes one more child into account; `lookaheadEnd` is how far the children so far have looked,
counted from the start of the padding. -/
def addChild (acc : Branch × Nat) (first : Bool) (child : Tree) : Branch × Nat :=
  let (b, lookaheadEnd) := acc
  let padding := if first then child.padding else b.padding
  let size := if first then child.size else b.size + child.totalSize
  let own := if lang.isVisible child.symbol then 1 else 0
  let b' : Branch := { b with
    padding, size
    errorCost := b.errorCost
      + (if child.symbol = Symbol.skipped then 0 else child.errorCost)
      + b.skippedTreePrice lang child
    visibleDescendants := b.visibleDescendants + child.visibleDescendants + own
    visibleChildren :=
      b.visibleChildren + (if own = 1 then 1 else child.visibleChildren)
    namedChildren :=
      b.namedChildren + (if own = 1 then (if lang.isNamed child.symbol then 1 else 0)
        else child.namedChildren)
    fragileLeft := b.fragileLeft || child.isError
    fragileRight := b.fragileRight || child.isError
    state := if child.isError then none else b.state }
  (b', max lookaheadEnd (padding.bytes + size.bytes + child.lookahead))

/-- Takes the remaining children into account. -/
def addChildren (acc : Branch × Nat) : List Tree → Branch × Nat
  | [] => acc
  | child :: rest => addChildren (addChild lang acc false child) rest

/-- Computes everything about a branch that follows from its children. -/
def summarize (b : Branch) (children : List Tree) : Branch :=
  let blank : Branch := { b with
    visibleChildren := 0, namedChildren := 0, visibleDescendants := 0
    errorCost := 0, repeatDepth := 0 }
  let (b, lookaheadEnd) :=
    match children with
    | [] => (blank, 0)
    | first :: rest => addChildren lang (addChild lang (blank, 0) true first) rest
  let errorPrice :=
    if b.holdsErrors then
      prices.recovery + prices.skippedByte * b.size.bytes
        + prices.skippedLine * b.size.point.row
    else 0
  let b := { b with
    lookahead := lookaheadEnd - b.size.bytes - b.padding.bytes
    errorCost := b.errorCost + errorPrice }
  match children, children.getLast? with
  | first :: rest, some last =>
    { b with
      firstSymbol := first.firstSymbol
      firstState := first.firstState?
      fragileLeft := b.fragileLeft || first.isFragileLeft
      fragileRight := b.fragileRight || last.isFragileRight
      repeatDepth :=
        if !rest.isEmpty && lang.visibility b.symbol = .auxiliary && first.symbol = b.symbol then
          max first.repeatDepth last.repeatDepth + 1
        else 0 }
  | _, _ => b

end Branch

namespace Tree

variable (lang : Language)

/-- Computes the summary of the root again. -/
def resummarize : Tree → Tree
  | token t => token t
  | branch b cs => branch (b.summarize lang cs) cs

/-- The node with a label, a production and children, built in parse number `generation`. -/
def ofChildren (generation : Nat) (symbol : Symbol) (production : Nat) (children : List Tree) :
    Tree :=
  let fragile := symbol == Symbol.error || symbol == Symbol.skipped
  let b : Branch := {
    symbol, production
    padding := Extent.zero, size := Extent.zero, lookahead := 0
    state := some 0, extra := false, changed := false
    fragileLeft := fragile, fragileRight := fragile
    errorCost := 0, visibleChildren := 0, namedChildren := 0, visibleDescendants := 0
    repeatDepth := 0
    firstSymbol := 0, firstState := some 0, generation }
  branch (b.summarize lang children) children

/-- The token `symbol` of width zero that the text lacks. -/
def missingToken (symbol : Symbol) (padding : Extent) (lookahead : Nat) : Tree :=
  token {
    symbol, padding, size := Extent.zero, lookahead, state := 0
    keyword := false, missing := true, extra := false, changed := false, culprit := '\x00' }

/-- Orders trees by their labels and shapes, from the root down and from left to right. -/
def compareShapes : Nat → List (Tree × Tree) → Ordering
  | 0, _ => .eq
  | _, [] => .eq
  | fuel + 1, (l, r) :: rest =>
    match compare l.symbol r.symbol with
    | .eq =>
      match compare l.children.length r.children.length with
      | .eq => compareShapes fuel (l.children.zip r.children ++ rest)
      | o => o
    | o => o

end Tree

end SyntaxKit
