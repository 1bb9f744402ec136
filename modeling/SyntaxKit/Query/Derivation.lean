import SyntaxKit.Language.Basic

/-!
# Derivations in a parse automaton

Which children a node of the grammar can have is read off the parse automaton.  `Derivation` turns
the automaton around: for every state it lists the symbols that can be read there with the states
they lead to, the states from which it is entered, and the nodes that can be completed there.

A `Spot` is a place inside a node under construction.  `Derivation.spots?` finds, for a symbol, the
spots of its nodes at every state, by walking back from the states in which such a node is complete.
-/

namespace SyntaxKit.Query

/-- A place inside a node: its production, how many children stand before it, and whether the node
is complete here. -/
structure Spot where
  production : Nat
  children : Nat
  complete : Bool
deriving DecidableEq, Repr

/-- The spots at each parse state. -/
abbrev SpotTable := Array (List Spot)

/-- The parse automaton seen from the nodes that it builds. -/
structure Derivation where
  /-- What can be read in a state, and the state behind it. -/
  moves : Array (List (Symbol × ParseState))
  /-- The states from which a state is entered. -/
  predecessors : Array (List ParseState)
  /-- The nodes that can be completed in a state. -/
  completions : Array (List (Symbol × Spot))
  /-- The states in which a node of the symbol can begin; of states that differ only in what may
  follow, the first. -/
  beginnings : Array (List ParseState)

namespace Derivation

/-- The state behind a token in a state, which is the state itself for a token beside the grammar.
-/
def shiftTarget? (state : ParseState) (actions : List Action) : Option ParseState :=
  match actions.getLast? with
  | some (.shift next _) => some next
  | some .shiftExtra => some state
  | _ => none

/-- The numbers of the bits that are set in a number below a bound. -/
def bits (set bound : Nat) : List Nat := (List.range bound).filter set.testBit

/-- What can be read in a state. -/
def movesOf (lang : Language) (state : ParseState) : List (Symbol × ParseState) :=
  let row := lang.row state
  let tokens := row.entries.flatMap fun e =>
    match shiftTarget? state e.actions with
    | some next => (bits e.tokens lang.tokenCount).map (·, next)
    | none => []
  let others := row.gotos.flatMap fun (set, next) =>
    (bits set (lang.symbols.size - lang.tokenCount)).map (lang.tokenCount + ·, next)
  tokens ++ others

/-- The states that a state leads to. -/
def successorsOf (row : StateRow) (state : ParseState) : List ParseState :=
  (row.entries.flatMap fun e => e.actions.filterMap fun
    | .shift next _ => some next
    | _ => none)
    ++ (row.gotos.map (·.2)).filter (· != state)

/-- The nodes that can be completed in a state, one for each symbol. -/
def completionsOf (row : StateRow) : List (Symbol × Spot) :=
  let all := row.entries.flatMap fun e => e.actions.filterMap fun
    | .reduce symbol count production => some (symbol, ⟨production, count, true⟩)
    | _ => none
  all.foldl (fun found c => if found.any (·.1 == c.1) then found else found ++ [c]) []

/-- Adds a state to the lists of some others, unless it is the last one there. -/
def recordAll (state : Nat) (table : Array (List Nat)) (targets : List Nat) :
    Array (List Nat) :=
  targets.foldl (fun table t =>
    table.modify t fun seen => if seen.head? = some state then seen else state :: seen) table

/-- The automaton of a language seen from its nodes. -/
def ofLanguage (lang : Language) : Derivation :=
  let states := (List.range lang.parseStates.size).drop 1
  let none := Array.replicate lang.parseStates.size []
  { moves := ((List.range lang.parseStates.size).map (movesOf lang)).toArray
    predecessors :=
      states.foldl (fun table s => recordAll s table (successorsOf (lang.row s) s)) none
    completions := ((List.range lang.parseStates.size).map fun s =>
      if s = 0 then [] else completionsOf (lang.row s)).toArray
    beginnings := states.foldl (fun table s =>
      let row := lang.row s
      if row.core = s then
        recordAll s table (row.gotos.flatMap fun (set, _) =>
          (bits set (lang.symbols.size - lang.tokenCount)).map (lang.tokenCount + ·))
      else table) (Array.replicate lang.symbols.size []) }

/-- The states in which a node of the symbol can begin, in order. -/
def beginningsOf (d : Derivation) (s : Symbol) : List ParseState :=
  (d.beginnings.getD s []).reverse

/-- The spots one child before some spots. -/
def spotsBefore (d : Derivation) (spots : List (ParseState × Spot)) : List (ParseState × Spot) :=
  (spots.flatMap fun (state, spot) =>
    if spot.children ≤ 1 then []
    else
      (d.predecessors.getD state []).map (·, ⟨spot.production, spot.children - 1, false⟩)).eraseDups

/-- The spots with at most so many children that lead to some complete ones; `within` are those with
just so many that are not complete. -/
def closeSpots (d : Derivation) (ends : List (ParseState × Spot)) :
    Nat → List (ParseState × Spot) → List (ParseState × Spot)
  | 0, _ => ends.filter (·.2.children == 0)
  | n + 1, within =>
    let here := within ++ ends.filter (·.2.children == n + 1)
    here ++ d.closeSpots ends n (d.spotsBefore here)

/-- The complete spots of the nodes of a symbol. -/
def endsOf (d : Derivation) (s : Symbol) : List (ParseState × Spot) :=
  (List.range d.completions.size).filterMap fun state =>
    ((d.completions.getD state []).find? (·.1 == s)).map fun (_, spot) => (state, spot)

/-- The spots of the nodes of a symbol; none if the language has no such nodes. -/
def spots? (d : Derivation) (s : Symbol) : Option SpotTable :=
  let ends := d.endsOf s
  if ends.isEmpty then none
  else
    let longest := (ends.map (·.2.children)).foldl max 0
    some ((d.closeSpots ends longest []).foldl
      (fun table (state, spot) => table.modify state (spot :: ·))
      (Array.replicate d.completions.size []))

end Derivation

end SyntaxKit.Query
