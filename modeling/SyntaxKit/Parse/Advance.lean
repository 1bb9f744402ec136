import SyntaxKit.Parse.Recover

/-!
# Advancing a reading by one token

`Parse.advance` finds the next token or subtree for a reading and acts on it until it has been
shifted, or the reading has ended, or it has to wait for recovery.  The next subtree is taken from
an earlier tree if one there begins at the right place, is unchanged, and begins with a token that
would be read in the same way now; else it is the token read last, if that was read here; else a
token is read.
-/

namespace SyntaxKit

namespace Parse

/-! ## Taking over -/

/-- Whether a tree whose first token meets `entry` may be used in a state without reading it
again. -/
def canReuse (env : Setting) (state : ParseState) (t : Tree) (entry : Option Entry) : Bool :=
  match entry with
  | none => false
  | some e =>
    let lang := env.lang
    let sameLexing := (t.firstState?.map lang.lexState) == some (lang.lexState state)
    let wordIsSafe :=
      t.firstSymbol != lang.wordToken || (!t.isKeyword && t.state? == some state)
    if sameLexing && wordIsSafe then true
    else if t.size.bytes = 0 && t.firstSymbol != Symbol.endOfText then false
    else e.reusable

/-- Pushes the children of a subtree one by one; gives the state reached and whether the last of
them has children itself. -/
def pushChildren (env : Setting) (v : Nat) :
    List Tree → Parse → ParseState → Bool → Parse × ParseState × Bool
  | [], p, state, pending => (p, state, pending)
  | child :: rest, p, state, _ =>
    let pending := !child.isLeaf
    let state :=
      if child.isError then ParseState.recovering
      else if child.isExtra then state
      else env.lang.nextState state child.symbol
    pushChildren env v rest (p.onStack (·.push env.lang v (some child) pending state)) state pending

/-- Takes a subtree that was taken over whole off the stack and puts its children there instead,
again and again until a token is on top; says whether there was such a subtree. -/
def breakDownTop (env : Setting) (v : Nat) : Nat → Parse → Bool → Parse × Bool
  | 0, p, done => (p, done)
  | fuel + 1, p, done =>
    match p.stack.popPending v with
    | (stack, []) => ({ p with stack }, done)
    | (stack, parent :: others) =>
      let p := { p with stack }
      let (p, state, pending) := pushChildren env v parent.children p (p.stack.state v) false
      let p := p.onStack fun s =>
        others.foldl (fun s t => s.push env.lang v (some t) false state) s
      if pending then breakDownTop env v fuel p true else (p, true)

/-- Whether something about a subtree forbids taking it over. -/
def mustBreak (t : Tree) : Bool :=
  t.isChanged || t.isError || t.isMissing || t.isFragileLeft || t.isFragileRight

/-- Looks in the earlier tree for a subtree that begins at `offset` and may be used. -/
def findReusable (env : Setting) (v offset : Nat) : Nat → Parse → ParseState →
    Parse × ParseState × Option (Tree × Option Entry)
  | 0, p, state => (p, state, none)
  | fuel + 1, p, state =>
    match p.walk with
    | [] => (p, state, none)
    | s :: _ =>
      let t := s.tree
      if offset < s.offset then (p, state, none)
      else if s.offset < offset then
        let ends := s.offset + t.totalSize.bytes
        let walk :=
          if !t.isEndOfText && ends ≤ offset then p.walk.advance
          else (p.walk.descend?).getD p.walk.advance
        findReusable env v offset fuel { p with walk } state
      else if mustBreak t then
        match p.walk.descend? with
        | some walk => findReusable env v offset fuel { p with walk } state
        | none =>
          let p := { p with walk := p.walk.advance }
          let (p, _) := breakDownTop env v maxRounds p false
          findReusable env v offset fuel p (p.stack.state v)
      else
        let entry := env.lang.entry? state t.firstSymbol
        if canReuse env state t entry then (p, state, some (t, entry))
        else ({ p with walk := p.walk.advancePastFirstToken }, state, none)

/-- The token read last, if it was read at `offset` and can be used in the state. -/
def cachedToken (env : Setting) (p : Parse) (state : ParseState) (offset : Nat) :
    Option (Tree × Option Entry) :=
  match p.cached with
  | some (at_, t) =>
    if at_ = offset then
      let entry := env.lang.entry? state t.symbol
      if canReuse env state (.token t) entry then some (.token t, entry) else none
    else none
  | none => none

/-- Reads the next token of a reading in a state. -/
def readToken (env : Setting) (p : Parse) (v : Nat) (state : ParseState) :
    Parse × Tree × Option Entry :=
  let position := p.stack.position v
  let t := Lexer.next env.lang env.source state position
  ({ p with cached := some (position.bytes, t) }, .token t, env.lang.entry? state t.symbol)

/-! ## Acting on a token -/

/-- Whether the turn of a reading is over after some actions; if not, the last reading that came out
of a reduction, and whether there has been a reduction at all. -/
inductive Turn where
  | over (p : Parse)
  | goOn (p : Parse) (last : Option Nat) (reduced : Bool)

/-- Pushes a token or subtree on the stack of a reading. -/
def shift (env : Setting) (p : Parse) (v : Nat) (next : ParseState) (lookahead : Tree)
    (extra : Bool) : Parse :=
  let leaf := lookahead.isLeaf
  let t := if leaf && extra != lookahead.isExtra then lookahead.setExtra extra else lookahead
  p.onStack (·.push env.lang v (some t) (!leaf) next)

/-- Goes on in the earlier tree if the lookahead was taken from there. -/
def passReused (p : Parse) (reused : Bool) : Parse :=
  if reused then { p with walk := p.walk.advance } else p

/-- Carries out a shift. -/
def shiftLookahead (env : Setting) (p : Parse) (v : Nat) (state next : ParseState)
    (lookahead : Tree) (extra reused : Bool) : Parse :=
  if lookahead.isLeaf then (p.shift env v next lookahead extra).passReused reused
  else
    let (p, lookahead) := p.breakDownLookahead lookahead state
    let next := env.lang.nextState state lookahead.symbol
    (p.shift env v next lookahead extra).passReused reused

/-- Carries out the actions of a state on a lookahead.  Each reduction gives a new reading, anything
else ends the turn. -/
def act (env : Setting) (v : Nat) (state : ParseState) (lookahead : Tree)
    (reused ambiguous : Bool) : List Action → Parse → Option Nat → Bool → Turn
  | [], p, last, reduced => .goOn p last reduced
  | a :: rest, p, last, reduced =>
    match a with
    | .shift next repetition =>
      if repetition then act env v state lookahead reused ambiguous rest p last reduced
      else .over (shiftLookahead env p v state next lookahead false reused)
    | .shiftExtra => .over (shiftLookahead env p v state state lookahead true reused)
    | .reduce symbol count production =>
      let (p, new) := p.reduce env v ⟨symbol, count, production⟩ ambiguous
      act env v state lookahead reused ambiguous rest p (new.orElse fun _ => last) true
    | .accept => .over (p.accept env v lookahead)
    | .recover =>
      let (p, lookahead) :=
        if lookahead.isLeaf then (p, lookahead)
        else p.breakDownLookahead lookahead ParseState.recovering
      .over ((p.recover env v lookahead).passReused reused)

/-- A keyword token taken as an identifier. -/
def asWord (env : Setting) : Tree → Tree
  | .token t => .token { t with symbol := env.lang.wordToken }
  | t => t

/-- Acts on a lookahead until the turn of the reading is over.  Text that is no token can be acted on
in no state, so even a reading in recovery waits in front of it. -/
def advanceWith (env : Setting) (v : Nat) :
    Nat → Parse → ParseState → Tree → Option Entry → Bool → Parse
  | 0, p, _, _, _, _ => p.onStack (·.halt v)
  | fuel + 1, p, state, lookahead, entry, reused =>
    let actions := (entry.map (·.actions)).getD []
    match act env v state lookahead reused (1 < actions.length) actions p none false with
    | .over p => p
    | .goOn p (some new) _ =>
      let p := p.onStack (·.replace new v)
      let state := p.stack.state v
      let entry := env.lang.entry? state lookahead.firstSymbol
      advanceWith env v fuel p state lookahead entry reused
    | .goOn p none true => p.onStack (·.halt v)
    | .goOn p none false =>
      let asWordEntry :=
        if lookahead.isKeyword && lookahead.symbol != env.lang.wordToken then
          env.lang.entry? state env.lang.wordToken
        else none
      match asWordEntry with
      | some e =>
        advanceWith env v fuel p state (asWord env lookahead) (some e) reused
      | none =>
        match breakDownTop env v maxRounds p false with
        | (p, true) =>
          let state := p.stack.state v
          let (p, lookahead, entry) := p.readToken env v state
          advanceWith env v fuel p state lookahead entry reused
        | (p, false) => p.onStack (·.pause v lookahead)

/-- Advances a reading by one token or subtree. -/
def advance (env : Setting) (p : Parse) (v : Nat) (mayReuse : Bool) : Parse :=
  let state := p.stack.state v
  let offset := (p.stack.position v).bytes
  let (p, state, found) :=
    if mayReuse then findReusable env v offset env.maxSteps p state else (p, state, none)
  match found with
  | some (t, entry) => advanceWith env v env.maxSteps p state t entry true
  | none =>
    match p.cachedToken env state offset with
    | some (t, entry) => advanceWith env v env.maxSteps p state t entry false
    | none =>
      let (p, t, entry) := p.readToken env v state
      advanceWith env v env.maxSteps p state t entry false

end Parse

end SyntaxKit
