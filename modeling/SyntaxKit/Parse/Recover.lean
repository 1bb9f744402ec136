import SyntaxKit.Parse.Reduce

/-!
# Recovering from errors

A reading that meets a token it cannot use is put into recovery.  First all reductions that any
token would allow are made, and it is tried whether one missing token would help.  Then, for each
token, there are two ways on: to go back to a state further down in which the token is valid, with
everything above it wrapped as an error, and to skip the token and stay in recovery.  Both are
pursued as long as neither is clearly worse than something else.
-/

namespace SyntaxKit

namespace Parse

/-- Bounds the rounds of a search through reductions; far more than any search takes. -/
def maxRounds : Nat := 100000

/-! ## Reductions that some token allows -/

/-- Adds a reduction to a list, unless one to the same symbol from as many children is there. -/
def addReduction (rs : List Reduction) (r : Reduction) : List Reduction :=
  if rs.any fun o => o.symbol == r.symbol && o.count == r.count then rs else rs ++ [r]

/-- The reductions among some actions, and whether one of them moves on. -/
def collectActions (acc : List Reduction × Bool) (a : Action) : List Reduction × Bool :=
  match a with
  | .shift _ repetition => (acc.1, acc.2 || !repetition)
  | .recover => (acc.1, true)
  | .reduce symbol count production =>
    if 0 < count then (addReduction acc.1 ⟨symbol, count, production⟩, acc.2) else acc
  | .shiftExtra | .accept => acc

/-- The reductions that a state makes on some of the given tokens, and whether it shifts one. -/
def reductionsOn (lang : Language) (state : ParseState) (tokens : List Symbol) :
    List Reduction × Bool :=
  tokens.foldl (fun acc token => (lang.actions state token).foldl collectActions acc) ([], false)

/-- Makes reductions one after the other from the same reading; gives the last new reading. -/
def reduceEach (env : Setting) (v : Nat) : List Reduction → Parse → Option Nat → Parse × Option Nat
  | [], p, last => (p, last)
  | r :: rest, p, _ =>
    let (p, new) := p.reduce env v r true
    reduceEach env v rest p new

/-- Joins the reading `v` into the first one from `j` on that stands before it and matches. -/
def mergeInto? (env : Setting) (p : Parse) (v j : Nat) : Option Parse :=
  (List.range' j (v - j)).findSome? fun i =>
    (p.stack.merge? env.lang i v).map fun stack => { p with stack }

/-- One after the other, makes all reductions that the given tokens allow in the reading `v` and in
those that arise from it; readings from `first` on are new.  With a particular lookahead, readings
that can neither shift it nor reduce are dropped.  Says whether some reading can shift. -/
def reduceAllLoop (env : Setting) (tokens : List Symbol) (particular : Bool) (origin first : Nat) :
    Nat → Nat → Nat → Parse → Bool → Parse × Bool
  | 0, _, _, p, can => (p, can)
  | fuel + 1, round, v, p, can =>
    let count := p.stack.count
    if count ≤ v then (p, can)
    else
      match p.mergeInto? env v first with
      | some p => reduceAllLoop env tokens particular origin first fuel (round + 1) v p can
      | none =>
        let (reductions, shifts) := reductionsOn env.lang (p.stack.state v) tokens
        let (p, last) := reduceEach env v reductions p none
        let next := if v = origin then count else v + 1
        if shifts then
          reduceAllLoop env tokens particular origin first fuel (round + 1) next p true
        else
          match last, decide (round < maxReadings) with
          | some new, true =>
            let p := p.onStack (·.replace new v)
            reduceAllLoop env tokens particular origin first fuel (round + 1) v p can
          | _, _ =>
            let p := if particular then p.onStack (·.remove v) else p
            reduceAllLoop env tokens particular origin first fuel (round + 1) next p can

/-- Makes all reductions that any token allows. -/
def reduceOnAny (env : Setting) (p : Parse) (v : Nat) : Parse :=
  let tokens := List.range' 1 (env.lang.tokenCount - 1)
  (reduceAllLoop env tokens false v p.stack.count maxRounds 0 v p false).1

/-- Makes all reductions that one lookahead allows; says whether it can then be shifted.  The end of
the text stands for any token. -/
def reduceOn (env : Setting) (p : Parse) (v : Nat) (lookahead : Symbol) : Parse × Bool :=
  if lookahead = Symbol.endOfText then
    let tokens := List.range' 1 (env.lang.tokenCount - 1)
    reduceAllLoop env tokens false v p.stack.count maxRounds 0 v p false
  else reduceAllLoop env [lookahead] true v p.stack.count maxRounds 0 v p false

/-! ## Going back, skipping -/

/-- Wraps what was popped, with any error that lies directly below it, as an error in the state that
is gone back to. -/
def wrapError (env : Setting) (goal : ParseState) (p : Parse) (slice : Stack.Slice) : Parse :=
  let v := slice.version
  let (stack, errors) := p.stack.popError v
  let p := { p with stack }
  let inner := match errors with
    | [] => []
    | e :: _ => e.children
  let (children, extras) := splitTrailingExtras (inner ++ slice.trees)
  p.onStack fun s =>
    let s :=
      if children.isEmpty then s
      else
        let node := Tree.ofChildren env.lang env.generation Symbol.error 0 children
        s.push env.lang v (some (node.setExtra true)) false goal
    extras.foldl (fun s t => s.push env.lang v (some t) false goal) s

/-- Turns the results of a pop that came out in the wanted state into readings that go on there;
`previous` is the reading made last. -/
def goBackSlices (env : Setting) (goal : ParseState) :
    List Stack.Slice → Parse → Option Nat → Parse × Bool
  | [], p, previous => (p, previous.isSome)
  | slice :: rest, p, previous =>
    if previous = some slice.version then goBackSlices env goal rest p previous
    else if p.stack.state slice.version ≠ goal then
      goBackSlices env goal rest (p.onStack (·.halt slice.version)) previous
    else goBackSlices env goal rest (wrapError env goal p slice) (some slice.version)

/-- Goes back to a state at a depth of the stack; says whether that was possible. -/
def goBack (env : Setting) (p : Parse) (v depth : Nat) (goal : ParseState) : Parse × Bool :=
  let (stack, slices) := p.stack.popCount v depth
  goBackSlices env goal slices { p with stack } none

/-- Looks through the states to which a reading may go back for one in which the token is valid. -/
def tryGoBack (env : Setting) (v : Nat) (token : Symbol) (position : Extent) (cost nodes : Nat)
    (readings : Nat) : List SummaryEntry → Parse → Parse × Bool
  | [], p => (p, false)
  | e :: rest, p =>
    let redundant := (List.range readings).any fun j =>
      p.stack.state j == e.state && (p.stack.position j).bytes == position.bytes
    if e.state = ParseState.recovering || e.position.bytes = position.bytes || redundant then
      tryGoBack env v token position cost nodes readings rest p
    else
      let skipped := position.bytes - e.position.bytes
      let lines := position.point.row - e.position.point.row
      let newCost := cost + e.depth * prices.skippedTree + skipped * prices.skippedByte
        + lines * prices.skippedLine
      let (p, dominated) := p.isDominated v false newCost
      if dominated then (p, false)
      else if env.lang.hasActions e.state token then
        let depth := if 0 < nodes then e.depth + 1 else e.depth
        match goBack env p v depth e.state with
        | (p, true) => (p, true)
        | (p, false) => tryGoBack env v token position cost nodes readings rest p
      else tryGoBack env v token position cost nodes readings rest p

/-- Strikes off the readings from `i` on that do not go on. -/
def removeInactive : Nat → Nat → Parse → Parse
  | 0, _, p => p
  | fuel + 1, i, p =>
    if p.stack.count ≤ i then p
    else if p.stack.isActive i then removeInactive fuel (i + 1) p
    else removeInactive fuel i (p.onStack (·.remove i))

/-- Whether a token stands beside the grammar. -/
def isExtraToken (lang : Language) (token : Symbol) : Bool :=
  match (lang.actions ParseState.initial token).getLast? with
  | some .shiftExtra => true
  | _ => false

/-- Skips a token, adding it to the list of skipped text on top of the stack if there is one. -/
def skipToken (env : Setting) (p : Parse) (v : Nat) (lookahead : Tree) (nodes : Nat) : Parse :=
  let lookahead :=
    if isExtraToken env.lang lookahead.symbol then lookahead.setExtra true else lookahead
  let make := Tree.ofChildren env.lang env.generation Symbol.skipped 0
  let skipped := make [lookahead]
  let (p, skipped) :=
    if 0 < nodes then
      let (stack, slices) := p.stack.popCount v 1
      match slices with
      | [] => ({ p with stack }, skipped)
      | first :: others =>
        let stack :=
          if others.isEmpty then stack
          else { stack with heads := stack.heads.take (first.version + 1) }
        ({ p with stack := stack.replace first.version v }, make (first.trees ++ [skipped]))
    else (p, skipped)
  p.onStack (·.push env.lang v (some skipped) false ParseState.recovering)

/-- Deals with one token in recovery. -/
def recover (env : Setting) (p : Parse) (v : Nat) (lookahead : Tree) : Parse :=
  let readings := p.stack.count
  let position := p.stack.position v
  let (stack, nodes) := p.stack.nodesSinceError v
  let p := { p with stack }
  let cost := p.stack.errorCost v
  let (p, wentBack) :=
    match (p.stack.head v).summary, lookahead.isError with
    | some summary, false =>
      tryGoBack env v lookahead.symbol position cost nodes readings summary p
    | _, _ => (p, false)
  let p := removeInactive (p.stack.count + 1) readings p
  if lookahead.isEndOfText then
    let wrapper := Tree.ofChildren env.lang env.generation Symbol.error 0 []
    let p := p.onStack (·.push env.lang v (some wrapper) false ParseState.initial)
    p.accept env v lookahead
  else if wentBack && maxReadings < p.stack.count then p.onStack (·.halt v)
  else
    let total := lookahead.totalSize
    let newCost := cost + prices.skippedTree + total.bytes * prices.skippedByte
      + total.point.row * prices.skippedLine
    let (p, dominated) := p.isDominated v false newCost
    if dominated then p.onStack (·.halt v)
    else skipToken env p v lookahead nodes

/-! ## Entering recovery -/

/-- Tries, in the reading `v`, the tokens from `token` on as one that is missing in front of the
lookahead.  If one helps, the reading that has it is added and the answer is yes. -/
def insertMissing (env : Setting) (v : Nat) (lookahead : Tree) :
    Nat → Symbol → Parse → Parse × Bool
  | 0, _, p => (p, false)
  | left + 1, token, p =>
    let state := p.stack.state v
    let after := env.lang.nextState state token
    if after = 0 || after = state then insertMissing env v lookahead left (token + 1) p
    else if env.lang.reducesOn after lookahead.firstSymbol then
      let looked := lookahead.totalSize.bytes + lookahead.lookahead
      let new := p.stack.count
      let missing := Tree.missingToken token Extent.zero looked
      let p := p.onStack fun s => (s.fork v).push env.lang new (some missing) false after
      match p.reduceOn env new lookahead.firstSymbol with
      | (p, true) => (p, true)
      | (p, false) => insertMissing env v lookahead left (token + 1) p
    else insertMissing env v lookahead left (token + 1) p

/-- Puts the given readings into recovery; until it has helped once, it is tried to insert a missing
token in each. -/
def enterRecovery (env : Setting) (lookahead : Tree) : List Nat → Parse → Bool → Parse
  | [], p, _ => p
  | v :: rest, p, done =>
    let (p, done) :=
      if done then (p, true) else insertMissing env v lookahead (env.lang.tokenCount - 1) 1 p
    let p := p.onStack (·.push env.lang v none false ParseState.recovering)
    enterRecovery env lookahead rest p done

/-- Joins into `v` as many of the readings listed at `i` as can be joined, at most `left`. -/
def mergeRepeatedly (env : Setting) (v i : Nat) : Nat → Parse → Parse
  | 0, p => p
  | left + 1, p =>
    match p.stack.merge? env.lang v i with
    | some stack => mergeRepeatedly env v i left { p with stack }
    | none => mergeRepeatedly env v i left p

/-- Replaces a lookahead taken over from an earlier tree by its first part that is a token or was
built in `state`; the walk, which stands in front of the lookahead, goes down with it. -/
def breakDownLookahead (p : Parse) (lookahead : Tree) (state : ParseState) : Parse × Tree :=
  let tooLarge (t : Tree) : Bool := !t.isLeaf && t.state? != some state
  ({ p with walk := p.walk.descendWhile tooLarge Tree.Walk.maxDepth },
    lookahead.firstPart tooLarge)

/-- Starts recovery in a reading that cannot use its lookahead. -/
def beginRecovery (env : Setting) (p : Parse) (v : Nat) (lookahead : Tree) : Parse :=
  let before := p.stack.count
  let p := p.reduceOnAny env v
  let after := p.stack.count
  let p := enterRecovery env lookahead (v :: List.range' before (after - before)) p false
  let p := mergeRepeatedly env v before (after - before) p
  let p := p.onStack (·.recordSummary v maxSummaryDepth)
  let (p, lookahead) :=
    if lookahead.isLeaf then (p, lookahead)
    else p.breakDownLookahead lookahead ParseState.recovering
  p.recover env v lookahead

end Parse

end SyntaxKit
