import SyntaxKit.Query.Basic
import SyntaxKit.Query.Place

/-!
# Matching queries

The program of a query runs over the visible nodes of a tree, entering and leaving them in order.
Any number of matches is in progress at a time, each waiting at a step for a node at a certain
depth.  When a node is entered new matches begin, and each match that waits at the node's depth fits
it, is given up, or goes on waiting; where it could also fit a later sibling it does both.  Of two
matches of a pattern at the same step with the same root, the one whose captures are all found in
the other is dropped.
-/

namespace SyntaxKit.Query

/-- A captured node: the place, and the number of the capture. -/
structure Capture where
  mark : Mark
  index : Nat
deriving DecidableEq, Repr, Inhabited

/-- A match in progress or completed. -/
structure Match where
  /-- A number that it is given when its first capture is handed out. -/
  id : Option Nat
  pattern : Nat
  /-- The step that it waits at. -/
  step : Nat
  /-- The depth of the root of the match. -/
  rootDepth : Nat
  captures : Array Capture
  /-- How many captures have been handed out. -/
  consumed : Nat
  /-- The next node has to match. -/
  immediate : Bool
  /-- The parent of the first node belongs to the match. -/
  needsParent : Bool
  /-- Another match in progress has all its captures and may get further. -/
  rivalled : Bool
deriving Repr, Inhabited

/-- The state of a run: the matches in progress in the order of their roots' depths and their
patterns, the completed matches, and the next number for a match. -/
structure Run where
  active : List Match
  finished : List Match
  nextId : Nat

/-- What happens on the way through a tree. -/
inductive Event where
  | enter (p : Place)
  | leave (depth : Nat)
deriving Inhabited

/-- Adds to a list of events, the last one first, those of leaving the nodes from a depth up to
depth `next`. -/
def addLeavings (depth next : Nat) (seen : List Event) : List Event :=
  ((List.range (depth + 1)).drop next).foldr (fun d seen => .leave d :: seen) seen

/-- The way through a tree as events, given its visible nodes in preorder; `seen` holds the events
so far, the last one first. -/
def eventsFrom : List Place → List Event → List Event
  | [], seen => seen.reverse
  | [p], seen => (addLeavings p.depth 0 (.enter p :: seen)).reverse
  | p :: q :: rest, seen => eventsFrom (q :: rest) (addLeavings p.depth q.depth (.enter p :: seen))

/-- The way through a tree as events, given its visible nodes in preorder. -/
def events (places : List Place) : List Event := eventsFrom places []

namespace Match

/-- Adds a node to the captures. -/
def capture (m : Match) (indices : List Nat) (mark : Mark) : Match :=
  { m with captures := indices.foldl (fun cs i => cs.push ⟨mark, i⟩) m.captures }

/-- Orders two captured nodes: by their start and, if they begin together, the longer one first. -/
def compareMarks (a b : Mark) : Ordering :=
  if a.number = b.number then .eq
  else (compare a.start.bytes b.start.bytes).then (compare b.stop.bytes a.stop.bytes)

/-- Whether the first list of captures contains the second, and the second the first. -/
def containment : List Capture → List Capture → Bool × Bool
  | [], [] => (true, true)
  | [], _ :: _ => (false, true)
  | _ :: _, [] => (true, false)
  | a :: as, b :: bs =>
    if a.mark.number = b.mark.number && a.index = b.index then containment as bs
    else
      match compareMarks a.mark b.mark with
      | .lt => let (l, _) := containment as (b :: bs); (l, false)
      | .gt => let (_, r) := containment (a :: as) bs; (false, r)
      | .eq => (false, false)
termination_by as bs => as.length + bs.length

/-- Whether the captures of the first match contain those of the second, and the other way round. -/
def compareCaptures (a b : Match) : Bool × Bool :=
  containment a.captures.toList b.captures.toList

end Match

namespace Run

variable (p : Program)

/-- Adds a match that begins at a step, unless the same one waits there already. -/
def insertMatch (m : Match) : List Match → List Match
  | active =>
    let (after, before) := active.reverse.span fun other =>
      !(other.rootDepth < m.rootDepth
        || (other.rootDepth == m.rootDepth && (other.pattern < m.pattern
          || (other.pattern == m.pattern && other.step == m.step))))
    match before with
    | other :: _ =>
      if other.rootDepth == m.rootDepth && other.pattern == m.pattern then active
      else before.reverse ++ m :: after.reverse
    | [] => m :: after.reverse

/-- Begins a match at a node.  The root of a match that begins at a stop is taken to be below the
node. -/
def begin (place : Place) (active : List Match) (s : Start) : List Match :=
  let step := p.step s.step
  let m : Match := {
    id := none
    pattern := s.pattern
    step := s.step
    rootDepth := if step.isStop then place.depth + 1 else place.depth - step.depth
    captures := #[]
    consumed := 0
    immediate := true
    needsParent := !step.isStop && step.depth == 1
    rivalled := false }
  if step.isStop then active ++ [m] else insertMatch m active

/-- Whether a node has an extent that ends at the very start of the text. -/
def endsAtStart (m : Mark) : Bool := m.stop.bytes == 0 || m.stop.point == ⟨0, 0⟩

/-- Whether a match may begin at a node.  Nothing begins below a node that ends at the start of the
text; a match that is not contained in its first node does not begin inside an error. -/
def mayBegin (place : Place) (s : Start) : Bool :=
  let step := p.step s.step
  let parentEnds := match place.parent with
    | some (m, _) => endsAtStart m
    | none => false
  let parentIsError := match place.parent with
    | some (_, symbol) => symbol == Symbol.error
    | none => false
  !parentEnds && (s.rooted || !parentIsError) && (step.isStop || step.depth ≤ place.depth)
    && (step.field.isNone || step.field == place.field)

/-- Begins all matches that can begin at a node. -/
def beginAll (place : Place) (active : List Match) : List Match :=
  let anywhere := if place.symbol == Symbol.error then [] else p.anywhere
  let here := (p.atSymbol.filter (·.1 == place.symbol)).map (·.2)
  ((anywhere ++ here).filter (mayBegin p place)).foldl (begin p place) active

/-- Whether a node has what a step asks for. -/
def fits (place : Place) (s : Step) : Bool :=
  (match s.test.symbol with
    | none =>
      if s.test.missing then place.missing
      else place.symbol != Symbol.error && (place.named || !s.test.namedOnly)
    | some symbol => symbol == place.symbol && (!s.test.missing || place.missing))
    && !(s.last && place.namedSiblingFollows)
    && (s.field.isNone || s.field == place.field)
    && !s.absent.any place.childFields.contains

/-- Whether a match that waits at a step may fit a later sibling of a node. -/
def mayFitLater (place : Place) (s : Step) (m : Match) : Bool :=
  place.siblingFollows && !(s.adjacent && place.named) && !m.immediate
    && !(s.field.isSome && s.field == place.field && !place.fieldMayFollow)

/-- The node below which a match that begins at a child begins: the last step before that belongs to
the root. -/
def rootStep : Nat → Step
  | 0 => p.step 0
  | i + 1 =>
    let s := p.step i
    if s.role == .jump || s.role == .fork || s.isStop || 0 < s.depth then rootStep i else s

/-- The matches that a match splits into at its step: itself, and those that take alternatives. -/
def branch : Nat → Match → List Match
  | 0, m => [m]
  | fuel + 1, m =>
    let s := p.step m.step
    match s.alternative with
    | none => [m]
    | some a =>
      let other := { m with
        step := a, immediate := m.immediate || s.adjacentAlternative }
      match s.role with
      | .jump => branch fuel { m with step := a }
      | .fork =>
        branch fuel { m with step := m.step + 1 } ++ branch fuel other
      | _ => m :: branch fuel other

/-- A match moves over a node that fits its step; none if the node lacks the parent that the match
needs. -/
def advance (place : Place) (s : Step) (m : Match) : Option Match :=
  let m? := if m.needsParent then
      place.parent.map fun (mark, _) =>
        { m with needsParent := false }.capture (rootStep p m.step).captures mark
    else some m
  m?.map fun m =>
    let m := m.capture s.captures place.mark
    let next := p.step (m.step + 1)
    { m with
      step := m.step + 1
      immediate := s.test.symbol.isNone && !s.test.namedOnly && next.adjacent }

/-- What becomes of a match when a node is entered, and whether it has become certain. -/
def meet (place : Place) (m : Match) : List Match × Bool :=
  let m := { m with rivalled := false }
  let s := p.step m.step
  if s.isStop || m.rootDepth + s.depth != place.depth then ([m], false)
  else
    let later := mayFitLater place s m
    if !fits place s then (if later then [m] else [], false)
    else
      let waiting := if later && (s.holdsCaptures || p.isFallible m.step) then [m] else []
      match advance p place s m with
      | none => (waiting, false)
      | some m => (branch p (p.steps.size + 1) m ++ waiting, (p.step m.step).certain)

/-- Drops matches that another one makes superfluous, and marks those that have a rival which may
get further.  Compares a match with the ones behind it. -/
def compareWith (m : Match) : List Match → Option Match × List Match
  | [] => (some m, [])
  | other :: rest =>
    if other.rootDepth != m.rootDepth || other.pattern != m.pattern then (some m, other :: rest)
    else
      let (contains, contained) := m.compareCaptures other
      let sameStep := m.step == other.step
      if contains && sameStep then compareWith m rest
      else
        let other := if contains then { other with rivalled := true } else other
        if contained && sameStep then (none, other :: rest)
        else
          let m := if contained then { m with rivalled := true } else m
          let (kept, rest) := compareWith m rest
          (kept, other :: rest)

/-- Settles the matches after a node has been entered: superfluous ones are dropped, and completed
ones without a rival are finished. -/
def settle : Nat → List Match → List Match → List Match → List Match × List Match
  | 0, active, kept, finished => (kept.reverse ++ active, finished.reverse)
  | _, [], kept, finished => (kept.reverse, finished.reverse)
  | fuel + 1, m :: rest, kept, finished =>
    match compareWith m rest with
    | (none, rest) => settle fuel rest kept finished
    | (some m, rest) =>
      if (p.step m.step).isStop && !m.rivalled then
        settle fuel rest kept (m :: finished)
      else settle fuel rest (m :: kept) finished

/-- Enters a node.  The answer also says whether a match was completed or has become certain. -/
def enter (r : Run) (place : Place) : Run × Bool :=
  let met := (beginAll p place r.active).map (meet p place)
  let active := met.flatMap (·.1)
  let (active, finished) := settle p active.length active [] []
  ({ r with active, finished := r.finished ++ finished },
    met.any (·.2) || !finished.isEmpty)

/-- Leaves a node at a depth: completed matches inside it are finished, and matches that still need
something inside it are given up. -/
def leave (r : Run) (depth : Nat) : Run × Bool :=
  let done := r.active.filter fun m =>
    (p.step m.step).isStop && (depth < m.rootDepth || depth == 0)
  let active := r.active.filter fun m =>
    let s := p.step m.step
    if s.isStop then !(depth < m.rootDepth || depth == 0) else m.rootDepth + s.depth ≤ depth
  ({ r with active, finished := r.finished ++ done }, !done.isEmpty)

/-- Enters or leaves a node.  The answer also says whether a match was completed or has become
certain. -/
def handle (r : Run) : Event → Run × Bool
  | .enter place => r.enter p place
  | .leave depth => r.leave p depth

/-- Goes on until a match is completed or certain, or to the end of the tree, where all matches in
progress are given up. -/
def proceed : List Event → Run → List Event × Run × Bool
  | [], r => ([], { r with active := [] }, false)
  | e :: rest, r =>
    let (r, found) := r.handle p e
    match rest with
    | [] => ([], { r with active := [] }, found)
    | _ => if found then (rest, r, true) else proceed rest r

end Run

end SyntaxKit.Query
