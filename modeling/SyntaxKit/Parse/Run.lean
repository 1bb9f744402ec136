import SyntaxKit.Parse.Advance
import SyntaxKit.Text.Chunks
import SyntaxKit.Tree.Balance

/-!
# Parsing a text

A parse goes on in rounds.  In each round every reading is advanced until it has come further than
any before; then the readings are compared, joined and ordered, the hopeless ones are dropped, and
if all of them wait, recovery begins in the best.  The parse ends when a complete tree is better
than every reading that is left.

All that a parse knows of the text is its `Source`.  `parse` reads a text from scratch,
`parseChunks` one that is kept in chunks, which it asks for what stands at an offset.  `reparse`
reads a text with the tree of an earlier version of it at hand, in which the edit has been marked.
-/

namespace SyntaxKit

namespace Parse

/-- What comparing a pair of readings leads to, when the second one stands at `i`. -/
inductive Paired where
  /-- The reading at `i` is gone. -/
  | gone (p : Parse)
  /-- Both are still there, perhaps in another order. -/
  | both (p : Parse)
  /-- The reading at `j` is gone. -/
  | earlierGone (p : Parse)

/-- Compares the readings at `j` and `i`, where the one at `i` stands as given. -/
def pair (env : Setting) (p : Parse) (j i : Nat) (mine : Standing) : Paired :=
  let (p, other) := p.standing j
  match other.compare mine with
  | .takeLeft => .gone (p.onStack (·.remove i))
  | .preferLeft | .neither =>
    match p.stack.merge? env.lang j i with
    | some stack => .gone { p with stack }
    | none => .both p
  | .preferRight =>
    match p.stack.merge? env.lang j i with
    | some stack => .gone { p with stack }
    | none => .both (p.onStack (·.swap i j))
  | .takeRight => .earlierGone (p.onStack (·.remove j))

/-- Compares the reading at `i` with those from `j` on that stand before it; gives the place of the
reading to be looked at next. -/
def pairAll (env : Setting) (mine : Standing) : Nat → Nat → Nat → Parse → Parse × Nat
  | 0, _, i, p => (p, i + 1)
  | fuel + 1, j, i, p =>
    if i ≤ j then (p, i + 1)
    else
      match p.pair env j i mine with
      | .gone p => (p, i)
      | .both p => pairAll env mine fuel (j + 1) i p
      | .earlierGone p => pairAll env mine fuel j (i - 1) p

/-- The smaller of two costs, where none is larger than any. -/
def cheaper (a : Option Nat) (b : Nat) : Option Nat :=
  match a with
  | none => some b
  | some a => some (min a b)

/-- Compares all readings from `i` on with those before them; gives the least cost of a reading that
is not in recovery. -/
def pairEach (env : Setting) : Nat → Nat → Parse → Option Nat → Parse × Option Nat
  | 0, _, p, least => (p, least)
  | fuel + 1, i, p, least =>
    if p.stack.count ≤ i then (p, least)
    else if p.stack.isHalted i then
      pairEach env fuel i (p.onStack (·.remove i)) least
    else
      let (p, mine) := p.standing i
      let least := if mine.inError then least else cheaper least mine.cost
      let (p, next) := pairAll env mine (p.stack.count + 1) 0 i p
      pairEach env fuel next p least

/-- Begins recovery in the first reading if it waits, and drops the others that wait. -/
def resumeFirst (env : Setting) : Nat → Nat → Nat → Parse → Bool → Option Nat → Parse × Option Nat
  | 0, _, _, p, _, least => (p, least)
  | fuel + 1, i, n, p, going, least =>
    if n ≤ i then (p, least)
    else
      match (p.stack.head i).status with
      | .paused lookahead =>
        if !going && p.accepted < maxReadings then
          let least := some (p.stack.errorCost i)
          let p := p.onStack (·.resume i)
          let p := p.beginRecovery env i lookahead
          resumeFirst env fuel (i + 1) n p true least
        else
          resumeFirst env fuel i (n - 1) (p.onStack (·.remove i)) going least
      | _ => resumeFirst env fuel (i + 1) n p true least

/-- Orders the readings and drops the hopeless ones; gives the least cost with which a reading may
still end. -/
def condense (env : Setting) (p : Parse) : Parse × Option Nat :=
  let (p, least) := pairEach env (2 * p.stack.count + 1) 0 p none
  let p := p.onStack fun s => { s with heads := s.heads.take maxReadings }
  resumeFirst env (2 * p.stack.count + 1) 0 p.stack.count p false least

/-- Advances one reading until it ends, waits, or has come further than `furthest`. -/
def advanceReading (env : Setting) (v : Nat) (mayReuse : Bool) :
    Nat → Parse → Nat → Parse × Nat
  | 0, p, furthest => (p, furthest)
  | fuel + 1, p, furthest =>
    if p.stack.isActive v then
      let p := p.advance env v mayReuse
      let position := (p.stack.position v).bytes
      if furthest < position || (0 < v && position = furthest) then (p, position)
      else advanceReading env v mayReuse fuel p furthest
    else (p, furthest)

/-- Advances the readings from `v` on; gives how many there were in the end. -/
def advanceReadings (env : Setting) : Nat → Nat → Parse → Nat → Parse × Nat × Nat
  | 0, _, p, furthest => (p, furthest, p.stack.count)
  | fuel + 1, v, p, furthest =>
    let count := p.stack.count
    if count ≤ v then (p, furthest, count)
    else
      let advanced := advanceReading env v (count = 1) env.maxSteps p furthest
      advanceReadings env fuel (v + 1) advanced.1 advanced.2

/-- Whether a parse is over: the best complete tree is better than all readings, or there were none
left. -/
def isOver (p : Parse) (least : Option Nat) (count : Nat) : Bool :=
  count == 0 ||
    match p.finished, least with
    | some t, some least => decide (t.errorCost < least)
    | some _, none => true
    | none, _ => false

/-- Advances all readings and puts them in order; gives how far they have come, the least cost with
which one of them may still end, and how many there were. -/
def round (env : Setting) (p : Parse) (furthest : Nat) : Parse × Nat × Option Nat × Nat :=
  let advanced := advanceReadings env env.maxSteps 0 p furthest
  let condensed := advanced.1.condense env
  (condensed.1, advanced.2.1, condensed.2, advanced.2.2)

/-- Goes on in rounds until the best complete tree is better than all readings. -/
def rounds (env : Setting) : Nat → Parse → Nat → Parse
  | 0, p, _ => p
  | fuel + 1, p, furthest =>
    let (p, furthest, least, count) := round env p furthest
    if isOver p least count then p else rounds env fuel p furthest

/-- A parse that has read nothing, with an earlier tree to take parts from. -/
def begin (old : Option Tree) : Parse where
  stack := Stack.start
  cached := none
  walk := (old.map Tree.Walk.start).getD []
  finished := none
  accepted := 0

end Parse

namespace Tree

/-- The number of the parse that built the root. -/
def generation : Tree → Nat
  | token _ => 0
  | branch b _ => b.generation

end Tree

namespace Language

/-- The tree of a text that was given up before there was a complete tree: one error that holds all
of it.  How many steps a parse takes is not known in advance, so whatever is said of the trees of
all texts has to be true of this one as well. -/
def unread (lang : Language) (generation : Nat) (text : List Char) : Tree :=
  Tree.ofChildren lang generation Symbol.error 0 [.token {
    symbol := Symbol.error, padding := Extent.zero, size := Extent.ofText text, lookahead := 0
    state := ParseState.recovering, keyword := false, missing := false, extra := false
    changed := false, culprit := '\x00' }]

/-- The tree that is handed out: the best complete one with its lists balanced, if there is any. -/
def finish (lang : Language) (generation : Nat) (text : List Char) : Option Tree → Tree
  | some t => t.balance lang generation
  | none => lang.unread generation text

/-- Parses what a source holds with an earlier tree at hand. -/
def parseSource (lang : Language) (old : Option Tree) (source : Source) : Tree :=
  let generation := (old.map fun t => t.generation + 1).getD 0
  let env := Setting.ofSource lang generation source
  lang.finish generation (source.suffixAt 0)
    (Parse.rounds env env.maxSteps (Parse.begin old) 0).finished

/-- Parses a text with an earlier tree at hand. -/
def parseWith (lang : Language) (old : Option Tree) (text : List Char) : Tree :=
  lang.parseSource old (Source.ofText text)

/-- Parses a text of at most `size` bytes that is given from any offset on. -/
def parseServed (lang : Language) (old : Option Tree) (read : Nat → List UInt8) (size : Nat) :
    Tree :=
  lang.parseSource old (Source.ofReader read size)

/-- Parses a text from scratch. -/
def parse (lang : Language) (text : List Char) : Tree := lang.parseWith none text

/-- Parses a text that is kept in chunks. -/
def parseChunks (lang : Language) (chunks : Chunks) : Tree :=
  lang.parseServed none chunks.readAt chunks.size

/-- Parses a text, taking over the unchanged parts of an earlier tree. -/
def reparse (lang : Language) (old : Tree) (text : List Char) : Tree :=
  lang.parseWith (some old) text

end Language

end SyntaxKit
