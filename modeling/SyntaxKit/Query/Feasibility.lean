import SyntaxKit.Query.Derivation
import SyntaxKit.Query.Program

/-!
# Feasibility of patterns

A pattern that asks for children which no node of its kind can have is refused, and of the others it
is found out where a match can still fail.  To this end the children of a pattern are matched
against all nodes that the grammar allows: `Trail` is such a match in progress, a stack of nodes
under construction and the step to be fitted next.  Hidden nodes are entered; how often one may lie
inside another of the same kind is limited at first, and the limit is raised as long as that shows
new steps at which a match can fail.

The trails that have come the least far are followed first, and all are given up after a number of
rounds or when a stack grows too high; the pattern is then taken to be feasible, and to fail
anywhere.
-/

namespace SyntaxKit.Query

/-- A node under construction: the parse state, the symbol, how many children there are, the field
that it hands to its children, and whether it is complete. -/
structure Frame where
  state : ParseState
  parent : Symbol
  children : Nat
  field : Option String
  complete : Bool
deriving DecidableEq, Repr

/-- A match in progress: the nodes under construction, the innermost first, and the next step. -/
structure Trail where
  frames : List Frame
  step : Nat
deriving DecidableEq, Repr

namespace Trail

/-- Orders stacks by how far they have come, the outermost node counting first; of two stacks one of
which continues the other, the longer one comes first. -/
def comparePositions : List Frame → List Frame → Ordering
  | [], [] => .eq
  | [], _ :: _ => .gt
  | _ :: _, [] => .lt
  | a :: as, b :: bs => (compare a.children b.children).then (comparePositions as bs)

/-- Orders trails by how far they have come. -/
def comparePosition (a b : Trail) : Ordering :=
  (comparePositions a.frames.reverse b.frames.reverse).then (compare a.step b.step)

/-- Orders two nodes under construction. -/
def compareFrame (a b : Frame) : Ordering :=
  (compare a.children b.children).then
    ((compare a.parent b.parent).then
      ((compare a.state b.state).then (compare (a.field.getD "") (b.field.getD ""))))

/-- Orders two stacks of equal height. -/
def compareFrames : List Frame → List Frame → Ordering
  | a :: as, b :: bs => (compareFrame a b).then (compareFrames as bs)
  | _, _ => .eq

/-- Orders trails; those with the higher stack come first. -/
def compareTrails (a b : Trail) : Ordering :=
  (compare b.frames.length a.frames.length).then
    ((compareFrames a.frames.reverse b.frames.reverse).then (compare a.step b.step))

/-- Adds a trail to an ordered list without repetitions. -/
def insert (t : Trail) : List Trail → List Trail
  | [] => [t]
  | x :: rest =>
    if x = t then x :: rest
    else if compareTrails t x == .lt then t :: x :: rest
    else x :: insert t rest

/-- How many of the nodes under construction lie inside another one of the same kind. -/
def nesting (t : Trail) : Nat := (go t.frames)
where
  /-- Counts in a stack, the innermost node first. -/
  go : List Frame → Nat
    | [] => 0
    | f :: rest => (if rest.any (·.parent == f.parent) then 1 else 0) + go rest

end Trail

/-- At most so many nodes may be under construction at a time. -/
def frameLimit : Nat := 8

/-- Trails are given up after so many rounds. -/
def roundLimit : Nat := 256

/-- What is known while trails are followed: the trails of the next round, those that wait for a
higher limit, whether a match was completed, the steps at which one failed, and whether trails were
given up. -/
structure Survey where
  next : List Trail
  deeper : List Trail
  matched : Bool
  failures : List Nat
  abandoned : Bool

namespace Survey

/-- Adds a step at which a match can fail. -/
def addFailure (v : Survey) (step : Nat) : Survey :=
  if v.failures.contains step then v else { v with failures := step :: v.failures }

variable (lang : Language) (d : Derivation) (tables : List (Symbol × SpotTable))
  (program : Program)

/-- The first step from `i` on that is not below a step. -/
def stepBehind (s : Step) : Nat → Nat → Nat
  | 0, i => i
  | fuel + 1, i => if (program.step i).isBelow s then stepBehind s fuel (i + 1) else i

/-- Records a trail that has come to a step, and to the alternatives of the step if the child before
it did fit. -/
def arrive (s : Step) (fits : Bool) (frames : List Frame) : Nat → Nat → Survey → Survey
  | 0, _, v => v
  | fuel + 1, i, v =>
    let next := program.step i
    match next.role with
    | .fork => arrive s fits frames fuel (i + 1) v
    | role =>
      let v :=
        if role == .jump then v
        else if next.isStop || next.depth != s.depth then { v with matched := true }
        else if frames.isEmpty then v.addFailure i
        else { v with next := Trail.insert ⟨frames, i⟩ v.next }
      match next.alternative with
      | some a => if fits && i < a then arrive s fits frames fuel a v else v
      | none => v

/-- Whether a child can be what a step asks for. -/
def fits (s : Step) (symbol : Symbol) (field : Option String) : Bool :=
  s.test.symbol == some Symbol.error
    || (lang.isVisible symbol
      && (match s.test.symbol with
        | some wanted => wanted == symbol
        | none => !s.test.namedOnly || lang.isNamed symbol)
      && (s.field.isNone || s.field == field))

/-- Removes the complete nodes on top of a stack. -/
def dropComplete (frames : List Frame) : List Frame := frames.dropWhile (·.complete)

/-- Follows a trail over one child that is not entered or, if it is hidden, into the child. -/
def follow (limit step : Nat) (top : Frame) (below : List Frame) (symbol : Symbol)
    (next : ParseState) (spot : Spot) (v : Survey) : Survey :=
  let s := program.step step
  let field := top.field.orElse fun _ => lang.fieldOf? spot.production top.children
  let top' := { top with
    state := next, children := spot.children, complete := top.complete || spot.complete }
  let matched := fits lang s symbol field
  let hidden := s.test.symbol != some Symbol.error && !lang.isVisible symbol
    && lang.tokenCount ≤ symbol
  if hidden then
    let child : Frame := ⟨top.state, symbol, 0, field, false⟩
    let trail : Trail := ⟨child :: (if top'.complete then below else top' :: below), step⟩
    if !top'.complete && frameLimit ≤ trail.frames.length then { v with abandoned := true }
    else if limit < trail.nesting then { v with deeper := Trail.insert trail v.deeper }
    else if next = top.state then v
    else arrive program s false trail.frames (program.steps.size + 1) step v
  else if matched then
    let i := stepBehind program s program.steps.size (step + 1)
    arrive program s true (dropComplete (top' :: below)) (program.steps.size + 1) i v
  else if next = top.state then v
  else arrive program s false (dropComplete (top' :: below)) (program.steps.size + 1) step v

/-- Follows a trail over every child that may come next. -/
def followAll (limit : Nat) (t : Trail) (v : Survey) : Survey :=
  match t.frames with
  | [] => v
  | top :: below =>
    match tables.find? (·.1 == top.parent) with
    | none => v
    | some (_, table) =>
      (d.moves.getD top.state []).foldl (fun v (symbol, next) =>
        let children := if next = top.state then top.children else top.children + 1
        ((table.getD next []).filter (·.children == children)).foldl (fun v spot =>
          follow lang program limit t.step top below symbol next spot v) v) v

/-- One round: follows trails in order until the next one has come further than those of the next
round. -/
def round (limit : Nat) : List Trail → Survey → Survey
  | [], v => v
  | t :: rest, v =>
    match v.next.getLast? with
    | none => round limit rest (followAll lang d tables program limit t v)
    | some last =>
      match t.comparePosition last with
      | .eq => round limit rest { v with next := Trail.insert t v.next }
      | .gt => { v with next := v.next ++ (t :: rest) }
      | .lt => round limit rest (followAll lang d tables program limit t v)

/-- All rounds; `known` is the number of failures when the limit was raised last. -/
def rounds : Nat → Nat → Nat → List Trail → Survey → Survey
  | 0, _, _, _, v => { v with abandoned := true }
  | fuel + 1, limit, known, trails, v =>
    match trails with
    | [] =>
      if !v.deeper.isEmpty && known < v.failures.length then
        rounds fuel (limit + 1) v.failures.length v.deeper { v with deeper := [] }
      else v
    | _ =>
      let v := round lang d tables program limit trails { v with next := [] }
      rounds fuel limit known v.next v

/-- Matches the children of a step against all nodes of its symbol. -/
def ofParent (step : Nat) (symbol : Symbol) : Survey :=
  let trails := (d.beginningsOf symbol).map fun state =>
    (⟨[⟨state, symbol, 0, none, false⟩], step + 1⟩ : Trail)
  rounds lang d tables program roundLimit 0 0 trails ⟨[], [], false, [], false⟩

end Survey

/-! ## Certain steps -/

namespace Program

/-- The steps below a step, as a stretch. -/
def belowCount (p : Program) (i : Nat) : Nat :=
  ((p.steps.toList.drop (i + 1)).takeWhile (·.isBelow (p.step i))).length

/-- The steps that ask for a certain kind of node with certain children. -/
def parents (p : Program) : List (Nat × Symbol) :=
  (List.range p.steps.size).filterMap fun i =>
    let s := p.step i
    match s.test.symbol with
    | some symbol => if 0 < p.belowCount i && !s.isStop then some (i, symbol) else none
    | none => none

/-- Changes the steps in a list. -/
def modifyAll (p : Program) (steps : List Nat) (f : Step → Step) : Program :=
  { p with steps := steps.foldl (fun a i => a.modify i f) p.steps }

/-- Marks where captures are, and takes every step below a certain kind of node to be certain. -/
def assumeCertain (p : Program) : Program :=
  (List.range p.steps.size).foldl (fun q i =>
    let s := p.step i
    if s.isStop then
      q.modifyAll [i] fun s => { s with certain := true, certainInParent := true }
    else
      let below := (List.range (p.belowCount i)).map (i + 1 + ·)
      let holds := !s.captures.isEmpty || below.any fun j => !(p.step j).captures.isEmpty
      let q := q.modifyAll [i] fun s => { s with holdsCaptures := holds }
      if s.test.symbol.isNone then q
      else q.modifyAll below fun s => { s with certain := true, certainInParent := true }) p

/-- The step is no longer certain. -/
def doubt (s : Step) : Step :=
  if s.role == .jump then s else { s with certain := false, certainInParent := false }

/-- Where the pattern begins that makes a step, or else the next one that does. -/
def originFrom (p : Program) (i : Nat) : Nat :=
  let origins := p.origins.reverse
  match origins.find? fun o => i ≤ o.1 with
  | some (_, position) => position
  | none => (origins.getLast?.map (·.2)).getD 0

/-- Finds out where the children of a step can fail to match; an error is the place in the text of
steps that can never match. -/
def surveyParent (lang : Language) (d : Derivation) (tables : List (Symbol × SpotTable))
    (p : Program) (parent : Nat × Symbol) : Except Nat Program :=
  let (i, symbol) := parent
  if symbol = Symbol.error then .ok p
  else if !tables.any (·.1 == symbol) then .error (p.originFrom (i + 1))
  else
    let v := Survey.ofParent lang d tables p i symbol
    let below := (List.range (p.belowCount i)).map (i + 1 + ·)
    if v.abandoned then .ok (p.modifyAll below doubt)
    else if !v.matched then .error (p.originFrom (v.failures.foldl max i))
    else
      let failures := v.failures.filter fun j => (p.step j).isBelow (p.step i)
      .ok (p.modifyAll failures doubt)

/-- Whether a step or an alternative of it that comes later is certain. -/
def hasCertainAlternative (p : Program) (first : Nat) : Nat → Nat → Bool
  | 0, _ => false
  | fuel + 1, i =>
    let s := p.step i
    s.certain ||
      match s.alternative with
      | some a => first ≤ a && hasCertainAlternative p first fuel a
      | none => false

/-- One pass from the last step to the first: a step before one that is not certain is not certain
either. -/
def spreadDoubt (p : Program) : Program :=
  ((List.range p.steps.size).drop 1).reverse.foldl (fun p i =>
    if (p.step i).isStop || p.hasCertainAlternative i p.steps.size i then p
    else
      let before := p.step (i - 1)
      if before.role == .jump || before.isStop then p
      else p.modifyAll [i - 1] fun s => { s with certain := false }) p

/-- Passes until nothing changes. -/
def spreadAll : Nat → Program → Program
  | 0, p => p
  | fuel + 1, p =>
    let q := p.spreadDoubt
    if q.steps.toList.map (·.certain) = p.steps.toList.map (·.certain) then p
    else spreadAll fuel q

/-- Steps whose captures conditions look at are not certain; `conditioned` lists those captures for
each pattern. -/
def doubtCaptures (p : Program) (conditioned : List (List Nat)) : Program :=
  (p.extents.zip conditioned).foldl (fun p ((first, stop), captures) =>
    let steps := ((List.range stop).drop first).filter fun i =>
      (p.step i).captures.any captures.contains
    p.modifyAll steps fun s => { s with certain := false }) p

/-- Finds out which steps are certain, and refuses patterns that can never match with their place in
the text. -/
def analyse (lang : Language) (d : Derivation) (conditioned : List (List Nat)) (p : Program) :
    Except Nat Program :=
  let p := p.assumeCertain
  let parents := p.parents
  let hidden := ((List.range lang.symbols.size).drop lang.tokenCount).filter
    fun s => !lang.isVisible s
  let symbols := if parents.isEmpty then [] else (parents.map (·.2) ++ hidden).eraseDups
  let tables := symbols.filterMap fun s => (d.spots? s).map (s, ·)
  match parents.foldlM (surveyParent lang d tables) p with
  | .error position => .error position
  | .ok p => .ok (spreadAll (p.steps.size + 1) (p.doubtCaptures conditioned))

end Program

end SyntaxKit.Query
