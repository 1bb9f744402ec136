import SyntaxKit.Tree.Basic

/-!
# Stacks that branch and rejoin

While a text is read, several readings of it may be alive.  Each keeps a stack of subtrees, and all
stacks share one store of vertices: a vertex is a parse state at a position of the text, and its
links name the vertices below it together with the subtree that was pushed on the way.  A vertex
with several links is where readings have rejoined; popping then follows every path.

A reading, here a `Head`, is known by its place in the order of preference.  Vertices are only ever
added or given more links, so the number of a vertex is good for the whole parse.

A link without a subtree marks the point where a reading has entered recovery.
-/

namespace SyntaxKit

/-- A step down the stack.  A `pending` subtree was taken over whole from an earlier tree. -/
structure Link where
  below : Nat
  tree : Option Tree
  pending : Bool
deriving Inhabited

/-- A place on a stack. -/
structure Vertex where
  state : ParseState
  position : Extent
  errorCost : Nat
  nodeCount : Nat
  links : List Link
deriving Inhabited

/-- A parse state further down, by the number of subtrees above it. -/
structure SummaryEntry where
  position : Extent
  depth : Nat
  state : ParseState
deriving Inhabited

/-- Whether a reading goes on, waits with the token it could not use, or has ended. -/
inductive Status where
  | active
  | paused (lookahead : Tree)
  | halted
deriving Inhabited

/-- A reading of the text: the top of its stack, the states to which recovery may go back, how many
nodes there were when it last met an error, and its status. -/
structure Head where
  top : Nat
  summary : Option (List SummaryEntry)
  nodesAtError : Nat
  status : Status
deriving Inhabited

/-- The store of vertices and the readings in order of preference. -/
structure Stack where
  vertices : Array Vertex
  heads : Array Head
deriving Inhabited

namespace Stack

/-- How many links a vertex can have. -/
def maxLinks : Nat := 8

/-- How many paths a pop can follow at a time. -/
def maxPaths : Nat := 64

/-- The stack of a parse that has read nothing. -/
def start : Stack :=
  { vertices := #[⟨ParseState.initial, Extent.zero, 0, 0, []⟩]
    heads := #[⟨0, none, 0, .active⟩] }

/-- The vertex with a number. -/
def vertex (s : Stack) (i : Nat) : Vertex := s.vertices.getD i default

/-- The reading at a place in the order. -/
def head (s : Stack) (v : Nat) : Head := s.heads.getD v default

/-- The vertex on which a reading stands. -/
def top (s : Stack) (v : Nat) : Vertex := s.vertex (s.head v).top

/-- How many readings there are. -/
def count (s : Stack) : Nat := s.heads.size

/-- The parse state of a reading. -/
def state (s : Stack) (v : Nat) : ParseState := (s.top v).state

/-- How far a reading has come. -/
def position (s : Stack) (v : Nat) : Extent := (s.top v).position

/-- Whether a reading goes on. -/
def isActive (s : Stack) (v : Nat) : Bool :=
  match (s.head v).status with
  | .active => true
  | _ => false

/-- Whether a reading waits for recovery. -/
def isPaused (s : Stack) (v : Nat) : Bool :=
  match (s.head v).status with
  | .paused _ => true
  | _ => false

/-- Whether a reading has ended. -/
def isHalted (s : Stack) (v : Nat) : Bool :=
  match (s.head v).status with
  | .halted => true
  | _ => false

/-- How many readings have ended but are still listed. -/
def haltedCount (s : Stack) : Nat :=
  (s.heads.toList.filter fun h => match h.status with | .halted => true | _ => false).length

/-- The cost of the errors of a reading; one that is in recovery without having skipped anything
yet pays for the recovery in advance. -/
def errorCost (s : Stack) (v : Nat) : Nat :=
  let top := s.top v
  let unpaid :=
    s.isPaused v ||
      (top.state == ParseState.recovering &&
        match top.links with
        | [] => true
        | link :: _ => link.tree.isNone)
  if unpaid then top.errorCost + prices.recovery else top.errorCost

/-- Replaces the reading at a place. -/
def setHead (s : Stack) (v : Nat) (h : Head) : Stack :=
  { s with heads := s.heads.setIfInBounds v h }

/-- How many nodes a reading has pushed since it last met an error.  A reading that has since popped
below that point starts counting from there. -/
def nodesSinceError (s : Stack) (v : Nat) : Stack × Nat :=
  let nodes := (s.top v).nodeCount
  let h := s.head v
  if nodes < h.nodesAtError then (s.setHead v { h with nodesAtError := nodes }, 0)
  else (s, nodes - h.nodesAtError)

/-! ## Pushing -/

/-- How much a subtree counts as progress: its visible nodes, and each list of skipped text. -/
def progress (lang : Language) (t : Tree) : Nat :=
  t.visibleDescendants + (if lang.isVisible t.symbol then 1 else 0)
    + (if t.symbol = Symbol.skipped then 1 else 0)

/-- The vertex above `below` over a subtree. -/
def above (lang : Language) (below : Nat) (v : Vertex) (tree : Option Tree) (pending : Bool)
    (state : ParseState) : Vertex :=
  let links : List Link := [⟨below, tree, pending⟩]
  match tree with
  | none => { v with state, links }
  | some t =>
    { state, links
      position := v.position + t.totalSize
      errorCost := v.errorCost + t.errorCost
      nodeCount := v.nodeCount + progress lang t }

/-- Pushes a subtree on the stack of a reading, which goes to `state`.  To push nothing is to enter
recovery. -/
def push (s : Stack) (lang : Language) (v : Nat) (tree : Option Tree) (pending : Bool)
    (state : ParseState) : Stack :=
  let h := s.head v
  let new := above lang h.top (s.vertex h.top) tree pending state
  let nodesAtError := if tree.isNone then new.nodeCount else h.nodesAtError
  let top := s.vertices.size
  { vertices := s.vertices.push new
    heads := s.heads.setIfInBounds v { h with top, nodesAtError } }

/-! ## The list of readings -/

/-- Lists one more reading. -/
def addHead (s : Stack) (h : Head) : Stack := { s with heads := s.heads.push h }

/-- Strikes a reading off the list. -/
def remove (s : Stack) (v : Nat) : Stack :=
  { s with heads := s.heads.eraseIdxIfInBounds v }

/-- Puts the reading `v` in the place of `target`, whose way back it takes if it has none. -/
def replace (s : Stack) (v target : Nat) : Stack :=
  if v = target then s
  else
    let h := s.head v
    let h := { h with summary := h.summary.orElse fun _ => (s.head target).summary }
    (s.setHead target h).remove v

/-- Exchanges two readings in the order. -/
def swap (s : Stack) (v w : Nat) : Stack :=
  let a := s.head v
  let b := s.head w
  (s.setHead v b).setHead w a

/-- Adds a copy of a reading at the end of the list. -/
def fork (s : Stack) (v : Nat) : Stack := s.addHead { s.head v with summary := none }

/-- Ends a reading. -/
def halt (s : Stack) (v : Nat) : Stack := s.setHead v { s.head v with status := .halted }

/-- Lets a reading wait with a token it cannot use. -/
def pause (s : Stack) (v : Nat) (lookahead : Tree) : Stack :=
  s.setHead v
    { s.head v with status := .paused lookahead, nodesAtError := (s.top v).nodeCount }

/-- Lets a waiting reading go on. -/
def resume (s : Stack) (v : Nat) : Stack := s.setHead v { s.head v with status := .active }

/-! ## Rejoining -/

/-- Whether two subtrees between the same states are alternatives that need not both be kept. -/
def areAlternatives : Option Tree → Option Tree → Bool
  | none, none => true
  | some a, some b =>
    a.symbol == b.symbol &&
      ((0 < a.errorCost && 0 < b.errorCost) ||
        (a.padding.bytes == b.padding.bytes && a.size.bytes == b.size.bytes
          && a.children.length == b.children.length && a.isExtra == b.isExtra))
  | _, _ => false

/-- Whether two vertices are the same place reached in different ways. -/
def Vertex.matches (a b : Vertex) : Bool :=
  a.state == b.state && a.position.bytes == b.position.bytes && a.errorCost == b.errorCost

/-- Appends a link to a vertex that has room for it. -/
def appendLink (s : Stack) (lang : Language) (i : Nat) (link : Link) : Stack :=
  let v := s.vertex i
  if v.links.length = maxLinks then s
  else
    let nodes := (s.vertex link.below).nodeCount
      + (match link.tree with | some t => progress lang t | none => 0)
    let v := { v with links := v.links ++ [link], nodeCount := max v.nodeCount nodes }
    { s with vertices := s.vertices.setIfInBounds i v }

/-- Gives the vertex `i` one more link.  A link whose subtree is an alternative to one that is there
is dropped if it goes to the same vertex, and if it goes to a matching vertex the two vertices are
joined instead. -/
def addLink (lang : Language) : Nat → Stack → Nat → Link → Stack
  | 0, s, _, _ => s
  | fuel + 1, s, i, link =>
    if link.below = i then s
    else
      let existing := (s.vertex i).links.find? fun e =>
        areAlternatives e.tree link.tree &&
          (e.below == link.below || Vertex.matches (s.vertex e.below) (s.vertex link.below))
      match existing with
      | none => s.appendLink lang i link
      | some e =>
        if e.below = link.below then s
        else
          (s.vertex link.below).links.foldl (fun s l => addLink lang fuel s e.below l) s

/-- Whether two readings can be joined. -/
def canMerge (s : Stack) (v w : Nat) : Bool :=
  s.isActive v && s.isActive w && Vertex.matches (s.top v) (s.top w)

/-- Joins the reading `w` into `v`, if that is possible. -/
def merge? (s : Stack) (lang : Language) (v w : Nat) : Option Stack :=
  if s.canMerge v w then
    let i := (s.head v).top
    let s := (s.top w).links.foldl (fun s l => addLink lang (s.vertices.size + 1) s i l) s
    let h := s.head v
    let h :=
      if s.state v = ParseState.recovering then { h with nodesAtError := (s.top v).nodeCount }
      else h
    some ((s.setHead v h).remove w)
  else none

/-! ## Following paths down -/

/-- A path from the top of a stack: where it has come to, the subtrees passed in the order of the
text, how many of them count, and whether all of those were taken over whole. -/
structure Path where
  vertex : Nat
  trees : List Tree
  count : Nat
  pending : Bool
deriving Inhabited

namespace Path

/-- The path followed over one more link.  Extras do not count. -/
def follow (p : Path) (link : Link) : Path :=
  match link.tree with
  | none => { p with vertex := link.below, count := p.count + 1, pending := false }
  | some t =>
    if t.isExtra then { p with vertex := link.below, trees := t :: p.trees }
    else
      { vertex := link.below
        trees := t :: p.trees
        count := p.count + 1
        pending := p.pending && link.pending }

end Path

/-- What to do with a path: keep a copy of it as a result, and follow it no further. -/
structure Verdict where
  take : Bool
  stop : Bool

/-- Goes over the paths once.  Each path is judged, and those not stopped are followed over one
link, with a new path at the end of the list for each further link as long as there is room. -/
def advancePaths {σ : Type} (s : Stack) (judge : σ → Path → σ × Verdict) :
    List Path → σ → List Path → List Path → List Path → σ × List Path × List Path
  | [], st, kept, added, taken => (st, kept.reverse ++ added.reverse, taken)
  | p :: rest, st, kept, added, taken =>
    let (st, verdict) := judge st p
    let links := (s.vertex p.vertex).links
    let taken := if verdict.take then p :: taken else taken
    match links, verdict.stop with
    | [], _ | _ :: _, true => advancePaths s judge rest st kept added taken
    | first :: others, false =>
      let room := maxPaths - (kept.length + 1 + rest.length + added.length)
      let added := ((others.take room).map p.follow).reverse ++ added
      advancePaths s judge rest st (p.follow first :: kept) added taken

/-- Follows all paths until each has been stopped; the results come in the order they were taken. -/
def walk {σ : Type} (s : Stack) (judge : σ → Path → σ × Verdict) :
    Nat → σ → List Path → List Path → σ × List Path
  | 0, st, _, taken => (st, taken.reverse)
  | _, st, [], taken => (st, taken.reverse)
  | fuel + 1, st, paths, taken =>
    let (st, paths, taken) := advancePaths s judge paths st [] [] taken
    walk s judge fuel st paths taken

/-- Follows all paths from the top of a reading. -/
def walkFrom {σ : Type} (s : Stack) (v : Nat) (judge : σ → Path → σ × Verdict) (st : σ) :
    σ × List Path :=
  walk s judge (s.vertices.size + 1) st [⟨(s.head v).top, [], 0, true⟩] []

/-! ## Popping -/

/-- Subtrees popped from a stack and the reading that stands where they were. -/
structure Slice where
  trees : List Tree
  version : Nat
deriving Inhabited

/-- Puts a slice behind the last one whose reading stands on the same vertex. -/
def insertSlice (s : Stack) (vertex : Nat) (trees : List Tree) (slices : List Slice) :
    Option (List Slice) :=
  let rec go : List Slice → Option (List Slice)
    | [] => none
    | sl :: rest =>
      if (s.head sl.version).top = vertex then some (⟨trees, sl.version⟩ :: sl :: rest)
      else (go rest).map (sl :: ·)
  (go slices.reverse).map List.reverse

/-- Turns the ends of paths into readings, one for each vertex reached. -/
def collect (nodesAtError : Nat) : List Path → Stack → List Slice → Stack × List Slice
  | [], s, slices => (s, slices)
  | p :: rest, s, slices =>
    match s.insertSlice p.vertex p.trees slices with
    | some slices => collect nodesAtError rest s slices
    | none =>
      let version := s.count
      collect nodesAtError rest (s.addHead ⟨p.vertex, none, nodesAtError, .active⟩)
        (slices ++ [⟨p.trees, version⟩])

/-- Follows all paths of a reading and turns the results into new readings. -/
def popPaths {σ : Type} (s : Stack) (v : Nat) (judge : σ → Path → σ × Verdict) (st : σ) :
    Stack × List Slice :=
  let nodesAtError := (s.head v).nodesAtError
  let (_, paths) := s.walkFrom v judge st
  collect nodesAtError paths s []

/-- Pops a number of subtrees, extras not counted. -/
def popCount (s : Stack) (v : Nat) (count : Nat) : Stack × List Slice :=
  s.popPaths v (fun _ p => ((), ⟨p.count == count, p.count == count⟩)) ()

/-- Pops the whole stack. -/
def popAll (s : Stack) (v : Nat) : Stack × List Slice :=
  s.popPaths v (fun _ p => ((), ⟨(s.vertex p.vertex).links.isEmpty, false⟩)) ()

/-- Puts the reading of the first result of a pop in the place of the one that was popped; the other
results stay behind all readings. -/
def takeFirst (v : Nat) : Stack × List Slice → Stack × List Tree
  | (s, []) => (s, [])
  | (s, first :: _) => (s.replace first.version v, first.trees)

/-- Pops one subtree that was taken over whole, with the extras above it, in place. -/
def popPending (s : Stack) (v : Nat) : Stack × List Tree :=
  takeFirst v (s.popPaths v (fun _ p => ((), ⟨1 ≤ p.count && p.pending, 1 ≤ p.count⟩)) ())

/-- Whether a path is to be taken as the error on top of a stack; only the first one is. -/
def errorVerdict (found : Bool) (p : Path) : Bool × Verdict :=
  match p.trees with
  | [] => (found, ⟨false, false⟩)
  | t :: _ => if !found && t.isError then (true, ⟨true, true⟩) else (found, ⟨false, true⟩)

/-- Pops the error on top of the stack of a reading, in place. -/
def popError (s : Stack) (v : Nat) : Stack × List Tree :=
  if (s.top v).links.any fun l => (l.tree.map Tree.isError).getD false then
    takeFirst v (s.popPaths v errorVerdict false)
  else (s, [])

/-- The states to which recovery may go back, by depth, down to `maxDepth` subtrees. -/
def summarize (s : Stack) (v : Nat) (maxDepth : Nat) : List SummaryEntry :=
  let judge (entries : List SummaryEntry) (p : Path) : List SummaryEntry × Verdict :=
    if maxDepth < p.count then (entries, ⟨false, true⟩)
    else
      let vertex := s.vertex p.vertex
      let known := (entries.takeWhile fun e => p.count ≤ e.depth).any fun e =>
        e.depth == p.count && e.state == vertex.state
      if known then (entries, ⟨false, false⟩)
      else (⟨vertex.position, p.count, vertex.state⟩ :: entries, ⟨false, false⟩)
  (s.walkFrom v judge []).1.reverse

/-- Notes for a reading the states to which recovery may go back. -/
def recordSummary (s : Stack) (v : Nat) (maxDepth : Nat) : Stack :=
  s.setHead v { s.head v with summary := some (s.summarize v maxDepth) }

end Stack

end SyntaxKit
