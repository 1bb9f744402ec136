import SyntaxKit.Parse.State

/-!
# Reducing and accepting

A reduction pops the children of a node from the stack of a reading and pushes the node in their
place.  Where readings had rejoined, popping may follow several paths: each place it comes out at
becomes a reading of its own, and where two paths come out at the same place the better list of
children is chosen.  Accepting pops everything and puts it under one root.
-/

namespace SyntaxKit

namespace Parse

/-- Splits off the extras at the end of a list of subtrees. -/
def splitTrailingExtras (trees : List Tree) : List Tree × List Tree :=
  let (extras, rest) := trees.reverse.span Tree.isExtra
  (rest.reverse, extras.reverse)

/-- The node over the best of several lists of children that lie between the same two vertices,
with the extras that stay outside. -/
def chooseChildren (env : Setting) (symbol : Symbol) (production : Nat) :
    Tree → List Tree → List Stack.Slice → Tree × List Tree
  | node, extras, [] => (node, extras)
  | node, extras, slice :: rest =>
    let (children, others) := splitTrailingExtras slice.trees
    let trial := Tree.ofChildren env.lang env.generation symbol 0 children
    if prefersSecond node trial then
      let node := Tree.ofChildren env.lang env.generation symbol production children
      chooseChildren env symbol production node others rest
    else chooseChildren env symbol production node extras rest

/-- Marks a node as built in a state, or as built while readings competed. -/
def settle (ambiguous : Bool) (state : ParseState) : Tree → Tree
  | .token t => .token t
  | .branch b cs =>
    if ambiguous then
      .branch { b with fragileLeft := true, fragileRight := true, state := none } cs
    else .branch { b with state := some state } cs

/-- Joins the reading `v` into the first of the readings before it that it matches, `except` apart;
says whether it did. -/
def mergeIntoEarlier (env : Setting) (except v : Nat) : Nat → Nat → Parse → Parse × Bool
  | 0, _, p => (p, false)
  | left + 1, j, p =>
    if j = except then mergeIntoEarlier env except v left (j + 1) p
    else
      match p.stack.merge? env.lang j v with
      | some stack => ({ p with stack }, true)
      | none => mergeIntoEarlier env except v left (j + 1) p

/-- The node that a reduction builds. -/
structure Reduction where
  symbol : Symbol
  count : Nat
  production : Nat

/-- Pushes the node of a reduction for each place at which popping came out.  `removed` readings
have been struck off the list since. -/
def reduceSlices (env : Setting) (r : Reduction) (v : Nat) (ambiguous : Bool) (halted : Nat) :
    Nat → Parse → Nat → List Stack.Slice → Parse
  | 0, p, _, _ => p
  | _, p, _, [] => p
  | fuel + 1, p, removed, slice :: rest =>
    let version := slice.version - removed
    let (same, rest) := rest.span (·.version == slice.version)
    if maxReadings + maxOverflow + halted < version then
      reduceSlices env r v ambiguous halted fuel (p.onStack (·.remove version)) (removed + 1) rest
    else
      let (children, extras) := splitTrailingExtras slice.trees
      let node := Tree.ofChildren env.lang env.generation r.symbol r.production children
      let (node, extras) := chooseChildren env r.symbol r.production node extras same
      let state := p.stack.state version
      let next := env.lang.nextState state r.symbol
      let node := settle ambiguous state node
      let p := p.onStack fun s =>
        extras.foldl (fun s t => s.push env.lang version (some t) false next)
          (s.push env.lang version (some node) false next)
      let (p, merged) := mergeIntoEarlier env v version version 0 p
      reduceSlices env r v ambiguous halted fuel p (if merged then removed + 1 else removed) rest

/-- Reduces on the stack of a reading; the result stands at the end of the list of readings, and is
the first of the new readings if there is one. -/
def reduce (env : Setting) (p : Parse) (v : Nat) (r : Reduction) (fragile : Bool) :
    Parse × Option Nat :=
  let before := p.stack.count
  let (stack, slices) := p.stack.popCount v r.count
  let p := { p with stack }
  let halted := p.stack.haltedCount
  let ambiguous := fragile || 1 < slices.length || 1 < before
  let p := reduceSlices env r v ambiguous halted (slices.length + 1) p 0 slices
  (p, if before < p.stack.count then some before else none)

/-- The root over a complete list of subtrees: the children of the last one that is not beside the
grammar are put in its place, and the whole list comes under its label. -/
def rootOf (env : Setting) (trees : List Tree) : Option Tree :=
  match trees.reverse.span Tree.isExtra with
  | (_, []) => none
  | (after, top :: before) =>
    let production := match top with
      | .branch b _ => b.production
      | .token _ => 0
    some (Tree.ofChildren env.lang env.generation top.symbol production
      (before.reverse ++ top.children ++ after.reverse))

/-- Ends a reading at the end of the text, and keeps its tree if it is the best so far. -/
def accept (env : Setting) (p : Parse) (v : Nat) (lookahead : Tree) : Parse :=
  let stack := p.stack.push env.lang v (some lookahead) false ParseState.initial
  let (stack, slices) := stack.popAll v
  let p := { p with stack }
  let p := slices.foldl (fun p slice =>
    match rootOf env slice.trees with
    | none => p
    | some root =>
      let finished :=
        match p.finished with
        | some best => if prefersSecond best root then root else best
        | none => root
      { p with finished := some finished, accepted := p.accepted + 1 }) p
  match slices with
  | [] => p.onStack (·.halt v)
  | first :: _ => p.onStack fun s => (s.remove first.version).halt v

end Parse

end SyntaxKit
