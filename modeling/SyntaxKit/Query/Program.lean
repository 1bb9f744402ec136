import SyntaxKit.Query.Pattern

/-!
# Programs of queries

A pattern is matched by running a program over a tree.  A program is a list of steps; a step asks
for a node at a certain depth below the root of the match, and after it comes the next step or,
where the pattern leaves a choice, an alternative.  Two kinds of steps ask for nothing: a fork goes
both back to its alternative and on, and a jump only to its alternative.  Every pattern ends with a
stop.

`Program.ofPatterns` lays the patterns out one after the other and lists the places where a match
can begin: for patterns that begin with a certain kind of node these are found by the symbol, the
others are tried at every node.
-/

namespace SyntaxKit.Query

/-- What a step does. -/
inductive Role where
  /-- Asks for a node. -/
  | test
  /-- Goes to the alternative. -/
  | jump
  /-- Goes to the alternative and also on. -/
  | fork
  /-- Ends a pattern. -/
  | stop
deriving DecidableEq, Repr, Inhabited

/-- A step of a program. -/
structure Step where
  role : Role
  /-- How far below the root of the match the node is. -/
  depth : Nat
  test : NodeTest
  /-- The node has to follow its sibling immediately. -/
  adjacent : Bool
  /-- The node has to be the last of its siblings. -/
  last : Bool
  field : Option String
  /-- Fields that the node must not have. -/
  absent : List String
  captures : List Nat
  alternative : Option Nat
  /-- The alternative has to match immediately. -/
  adjacentAlternative : Bool
  /-- There is a capture in the step or below it. -/
  holdsCaptures : Bool
  /-- A match that gets here is certain to be completed. -/
  certain : Bool
  /-- A match that gets here is certain to be completed within the parent of the node. -/
  certainInParent : Bool
deriving Repr, Inhabited

namespace Step

/-- A step that does `role` at a depth and has no further demands. -/
def plain (role : Role) (depth : Nat) (test : NodeTest) (adjacent : Bool) : Step where
  role := role
  depth := depth
  test := test
  adjacent := adjacent
  last := false
  field := none
  absent := []
  captures := []
  alternative := none
  adjacentAlternative := false
  holdsCaptures := false
  certain := false
  certainInParent := false

/-- The test that every node passes. -/
def anyNode : NodeTest := ⟨none, false, false⟩

/-- The step that ends a pattern. -/
def stop : Step := plain .stop 0 anyNode false

/-- Whether the step ends a pattern. -/
def isStop (s : Step) : Bool := s.role == .stop

/-- Whether a step is below another one. -/
def isBelow (s above : Step) : Bool := !s.isStop && above.depth < s.depth

/-- A step has at most three captures; further ones are ignored. -/
def capture (s : Step) (index : Nat) : Step :=
  if s.captures.length < 3 then { s with captures := s.captures ++ [index] } else s

end Step

/-- A place where the match of a pattern can begin.  It is rooted if the whole pattern lies in the
node of its first step. -/
structure Start where
  step : Nat
  pattern : Nat
  rooted : Bool
deriving Repr, Inhabited

/-- A program: its steps, the place in the text of the query for steps that begin a pattern, the
stretch of steps of every pattern, the starts that are tried at every node, and those that are tried
at nodes with a symbol. -/
structure Program where
  steps : Array Step
  origins : List (Nat × Nat)
  extents : List (Nat × Nat)
  anywhere : List Start
  atSymbol : List (Symbol × Start)
deriving Inhabited

namespace Program

/-- The step at a place; behind the last one there are only stops. -/
def step (p : Program) (i : Nat) : Step := p.steps.getD i Step.stop

/-- Whether the match of a step that fits a node may still fail below the node. -/
def isFallible (p : Program) (i : Nat) : Bool :=
  let s := p.step i
  let next := p.step (i + 1)
  next.isBelow s && (!next.certainInParent || s.test.symbol.isNone)

end Program

/-! ## Laying out patterns -/

/-- A program under construction: its steps, and the origins of steps, the last one first. -/
structure Draft where
  steps : Array Step
  origins : List (Nat × Nat)

namespace Draft

/-- The number of steps so far. -/
def size (d : Draft) : Nat := d.steps.size

/-- Adds a step. -/
def push (d : Draft) (s : Step) : Draft := { d with steps := d.steps.push s }

/-- Changes a step. -/
def modify (d : Draft) (i : Nat) (f : Step → Step) : Draft :=
  { d with steps := d.steps.modify i f }

/-- The alternative of a step. -/
def alternative? (d : Draft) (i : Nat) : Option Nat := (d.steps[i]?).bind (·.alternative)

/-- Records where the pattern that makes the next step begins; the outermost of several patterns
that begin with the step counts. -/
def mark (d : Draft) (position : Nat) : Draft :=
  match d.origins with
  | (i, _) :: _ => if i = d.size then d else { d with origins := (d.size, position) :: d.origins }
  | [] => { d with origins := [(d.size, position)] }

/-- Changes a step and the alternatives that are reached from it going forward. -/
def modifyForward (f : Step → Step) : Nat → Nat → Draft → Draft
  | 0, _, d => d
  | fuel + 1, i, d =>
    let d := d.modify i f
    match d.alternative? i with
    | some next => if i < next && next < d.size then modifyForward f fuel next d else d
    | none => d

/-- Changes a step and all alternatives that are reached from it. -/
def modifyReachable (f : Step → Step) : Nat → Nat → Draft → Draft
  | 0, _, d => d
  | fuel + 1, i, d =>
    let d := d.modify i f
    match d.alternative? i with
    | some next => if next < d.size then modifyReachable f fuel next d else d
    | none => d

/-- The last step that is reached from a step through alternatives below a limit. -/
def lastAlternative (d : Draft) (limit : Nat) : Nat → Nat → Nat
  | 0, i => i
  | fuel + 1, i =>
    match d.alternative? i with
    | some next => if next < limit then lastAlternative d limit fuel next else i
    | none => i

/-- Lets the pattern that begins at a step be left out. -/
def makeOptional (d : Draft) (first limit : Nat) : Draft :=
  let last := d.lastAlternative limit d.size first
  d.modify last fun s => { s with alternative := some d.size }

/-- Lets the pattern that begins at a step be repeated. -/
def makeRepeated (d : Draft) (first depth : Nat) : Draft :=
  d.push { Step.plain .fork depth Step.anyNode false with
    alternative := some first
    adjacentAlternative := true }

/-- Applies what follows the pattern that begins at a step. -/
def addSuffix (first depth : Nat) (d : Draft) : Suffix → Draft
  | .oneOrMore => d.makeRepeated first depth
  | .zeroOrMore =>
    let d := d.makeRepeated first depth
    d.makeOptional first (d.size - 1)
  | .optional => d.makeOptional first d.size
  | .capture index => d.modifyForward (·.capture index) (d.size + 1) first

/-- Applies all that follows the pattern that begins at a step. -/
def addSuffixes (first depth : Nat) (suffixes : List Suffix) (d : Draft) : Draft :=
  suffixes.foldl (addSuffix first depth) d

/-- Links the branches of a choice: each but the last has the next one as its alternative and ends
with a jump behind the choice. -/
def linkBranches (stop : Nat) : List Nat → Draft → Draft
  | first :: next :: rest, d =>
    let d := d.modify first fun s => { s with alternative := some next }
    let d := d.modify (next - 1) fun s => { s with role := .jump, alternative := some stop }
    linkBranches stop (next :: rest) d
  | _, d => d

mutual

/-- Lays out a pattern at a depth; `adjacent` says that it has to match immediately. -/
def add (depth : Nat) (adjacent : Bool) : Pattern → Draft → Draft
  | .node position test absent children closed suffixes, d =>
    let d := d.mark position
    let first := d.size
    let d := d.push (Step.plain .test depth test adjacent)
    let (d, lastChild) := addChildren (depth + 1) children (d, 0)
    let d := if closed then
        d.modifyReachable (fun s => { s with last := true }) (d.size + 1) lastChild
      else d
    let d := d.modify first fun s => { s with absent }
    d.addSuffixes first depth suffixes
  | .group position members suffixes, d =>
    let d := d.mark position
    let first := d.size
    (addMembers depth adjacent members d).addSuffixes first depth suffixes
  | .choice position branches suffixes, d =>
    let d := d.mark position
    let first := d.size
    let (d, firsts) := addBranches depth adjacent branches (d, [])
    (linkBranches d.size firsts.reverse d).addSuffixes first depth suffixes
  | .field position name inner, d =>
    let d := d.mark position
    let first := d.size
    let d := add depth adjacent inner d
    d.modifyForward (fun s => { s with field := some name }) (d.size + 1) first
  | .anchored inner, d => add depth true inner d
  | .condition position, d => d.mark position

/-- Lays out the children of a node, and finds the step that stands for the last of them: its first
step or, if it makes none, the step before. -/
def addChildren (depth : Nat) : List Pattern → Draft × Nat → Draft × Nat
  | [], r => r
  | child :: rest, (d, _) =>
    let first := d.size
    let d := add depth false child d
    addChildren depth rest (d, if d.size = first then first - 1 else first)

/-- Lays out the members of a group. -/
def addMembers (depth : Nat) (adjacent : Bool) : List Pattern → Draft → Draft
  | [], d => d
  | member :: rest, d => addMembers depth false rest (add depth adjacent member d)

/-- Lays out the branches of a choice with a place between them, and lists their first steps. -/
def addBranches (depth : Nat) (adjacent : Bool) :
    List Pattern → Draft × List Nat → Draft × List Nat
  | [], r => r
  | [branch], (d, firsts) =>
    let first := d.size
    (add depth adjacent branch d, first :: firsts)
  | branch :: rest, (d, firsts) =>
    let first := d.size
    let d := (add depth adjacent branch d).push (Step.plain .test depth Step.anyNode false)
    addBranches depth adjacent rest (d, first :: firsts)

end

end Draft

/-! ## Where matches begin -/

namespace Program

/-- Whether the pattern from a step on lies in the node of the step. -/
def isRooted (steps : Array Step) (i : Nat) : Bool :=
  let first := steps.getD i Step.stop
  let following := (steps.toList.drop (i + 1)).takeWhile (·.role != .jump)
  !first.isStop && first.depth == 0 && following.all fun s => s.isStop || s.depth != 0

/-- The starts of a pattern from a step on.  Where a pattern begins with any node that has a child
of a certain kind, the match begins at the child; `pending` is then the alternative of the first
step, which is tried last. -/
def startsFrom (steps : Array Step) (pattern : Nat) :
    Nat → Nat → Option Nat → List Start → List Start
  | 0, _, _, seen => seen.reverse
  | fuel + 1, i, pending, seen =>
    let s := steps.getD i Step.stop
    let below := steps.getD (i + 1) Step.stop
    let fromChild := !s.isStop && s.test.symbol.isNone && s.depth == 0 && s.field.isNone
      && !below.isStop && below.test.symbol.isSome && below.depth == 1 && !below.adjacent
    let (i, s, pending) := if fromChild then (i + 1, below, s.alternative) else (i, s, pending)
    let seen := ⟨i, pattern, isRooted steps i⟩ :: seen
    match s.alternative, pending with
    | some next, _ => startsFrom steps pattern fuel next pending seen
    | none, some next => startsFrom steps pattern fuel next none seen
    | none, none => seen.reverse

/-- The symbol at which a start is tried; none if it is tried at every node. -/
def startSymbol (steps : Array Step) (s : Start) : Option Symbol :=
  (steps.getD s.step Step.stop).test.symbol

/-- Adds a pattern to a program. -/
def addPattern (p : Program) (pattern : Pattern) : Program :=
  let first := p.steps.size
  let d := Draft.add 0 false pattern ⟨p.steps, p.origins⟩
  let d := d.push Step.stop
  let starts := startsFrom d.steps p.extents.length (2 * d.size + 2) first none []
  { steps := d.steps
    origins := d.origins
    extents := p.extents ++ [(first, d.size)]
    anywhere := p.anywhere ++ starts.filter fun s => (startSymbol d.steps s).isNone
    atSymbol := p.atSymbol ++ (starts.reverse.filterMap fun s =>
      (startSymbol d.steps s).map (·, s)) }

/-- The program for some patterns. -/
def ofPatterns (patterns : List Pattern) : Program :=
  patterns.foldl addPattern ⟨#[], [], [], [], []⟩

end Program

end SyntaxKit.Query
