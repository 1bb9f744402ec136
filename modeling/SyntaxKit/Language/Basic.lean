/-!
# Languages

What a parser has to know of a language: its symbols, a deterministic automaton that recognises the
tokens, a parse automaton with one row per state, and the names of the fields.  Everything is plain
data, so a statement about one language can be checked by looking at its tables.

Symbols are numbers.  Symbol `0` is the end of the text, the tokens follow, and the nonterminals
come after the tokens.  Two more symbols exist in every language: `Symbol.error` labels text that
could not be parsed, and `Symbol.skipped` is the invisible list of what has been skipped so far.
-/

namespace SyntaxKit

/-- A symbol of a grammar, by number. -/
abbrev Symbol := Nat

/-- A state of a parse automaton, by number. -/
abbrev ParseState := Nat

namespace Symbol

/-- The end of the text. -/
def endOfText : Symbol := 0

/-- The label of a node that holds text which could not be parsed. -/
def error : Symbol := 65535

/-- The label of the hidden list of skipped subtrees that grows during recovery. -/
def skipped : Symbol := 65534

end Symbol

namespace ParseState

/-- The state of a parse that has lost its way. -/
def recovering : ParseState := 0

/-- The state in which a parse begins. -/
def initial : ParseState := 1

end ParseState

/-- How a symbol shows in a tree: by its own name, as literal text, or not at all.  Hidden and
auxiliary symbols are both invisible; only hidden ones have a name in the grammar. -/
inductive Visibility where
  | named
  | literal
  | hidden
  | auxiliary
deriving DecidableEq, Repr, Inhabited

/-- The name of a symbol and how it shows. -/
structure SymbolInfo where
  name : String
  visibility : Visibility
deriving Repr, Inhabited

/-- An edge of a lexical automaton: the code points on which it is taken, as inclusive ranges, the
state it leads to, and whether the character is blank space before the token. -/
structure LexEdge where
  ranges : List (Nat × Nat)
  target : Nat
  skips : Bool
deriving Repr, Inhabited

/-- A state of a lexical automaton: the token recognised on arrival, the state entered when the
text ends here, and the edges. -/
structure LexState where
  accepts : Option Symbol
  atEnd : Option Nat
  edges : List LexEdge
deriving Repr, Inhabited

/-- A step of the parse automaton. -/
inductive Action where
  /-- Push the token and go to `state`; a `repetition` is only taken when a list is re-entered. -/
  | shift (state : ParseState) (repetition : Bool)
  /-- Push the token beside the grammar and stay. -/
  | shiftExtra
  /-- Pop `count` subtrees and push the node `symbol` over them. -/
  | reduce (symbol : Symbol) (count production : Nat)
  /-- The text is complete. -/
  | accept
  /-- Skip the token. -/
  | recover
deriving DecidableEq, Repr, Inhabited

/-- What a state does on a set of tokens; bit `i` of `tokens` stands for token `i`.  A token read
elsewhere may be taken over unread only where the entry is `reusable`. -/
structure Entry where
  tokens : Nat
  reusable : Bool
  actions : List Action
deriving Repr, Inhabited

/-- A state of a parse automaton: the lexical state in which its next token is read, the first state
that stands at the same places in the rules (the states differ only in what may follow), its
entries, and the states entered after sets of nonterminals, bit `i` standing for the `i`-th
nonterminal. -/
structure StateRow where
  lexState : Nat
  core : ParseState
  entries : List Entry
  gotos : List (Nat × ParseState)
deriving Repr, Inhabited

/-- The tables of a language. -/
structure Language where
  symbols : Array SymbolInfo
  tokenCount : Nat
  wordToken : Symbol
  keywords : List (List Char × Symbol)
  fields : Array String
  productions : Array (List (Nat × Nat))
  lexStates : Array LexState
  parseStates : Array StateRow
deriving Inhabited

namespace Language

variable (lang : Language)

/-- The name of a symbol. -/
def symbolName (s : Symbol) : String :=
  if s = Symbol.error then "ERROR"
  else if s = Symbol.skipped then "_ERROR"
  else ((lang.symbols[s]?).map (·.name)).getD ""

/-- How a symbol shows; text in error always shows by name. -/
def visibility (s : Symbol) : Visibility :=
  if s = Symbol.error then .named
  else if s = Symbol.skipped then .auxiliary
  else ((lang.symbols[s]?).map (·.visibility)).getD .auxiliary

/-- Whether nodes of the symbol are part of the visible tree. -/
def isVisible (s : Symbol) : Bool :=
  match lang.visibility s with
  | .named | .literal => true
  | .hidden | .auxiliary => false

/-- Whether the symbol stands for a rule of the grammar rather than for literal text. -/
def isNamed (s : Symbol) : Bool :=
  match lang.visibility s with
  | .named | .hidden => true
  | .literal | .auxiliary => false

/-- The row of a parse state. -/
def row (state : ParseState) : StateRow := lang.parseStates.getD state default

/-- The lexical state in which a parse state reads its next token. -/
def lexState (state : ParseState) : Nat := (lang.row state).lexState

/-- The entry of a parse state for a token. -/
def entry? (state : ParseState) (token : Symbol) : Option Entry :=
  if token < lang.tokenCount then (lang.row state).entries.find? (·.tokens.testBit token)
  else none

/-- What a parse state can do on a token. -/
def actions (state : ParseState) (token : Symbol) : List Action :=
  ((lang.entry? state token).map (·.actions)).getD []

/-- Whether a parse state can do anything on a token. -/
def hasActions (state : ParseState) (token : Symbol) : Bool :=
  (lang.entry? state token).isSome

/-- Whether the first thing a parse state does on a token is a reduction. -/
def reducesOn (state : ParseState) (token : Symbol) : Bool :=
  match lang.actions state token with
  | .reduce .. :: _ => true
  | _ => false

/-- The state entered from `state` over a symbol, `0` if the automaton has no such edge. -/
def nextState (state : ParseState) (s : Symbol) : ParseState :=
  if s = Symbol.error ∨ s = Symbol.skipped then ParseState.recovering
  else if s < lang.tokenCount then
    match (lang.actions state s).getLast? with
    | some (.shift next _) => next
    | some .shiftExtra => state
    | _ => 0
  else
    match (lang.row state).gotos.find? (·.1.testBit (s - lang.tokenCount)) with
    | some (_, next) => next
    | none => 0

/-- The field of the `i`-th child (extras not counted) of a production. -/
def fieldOf? (production i : Nat) : Option String :=
  match (lang.productions.getD production []).find? (·.1 = i) with
  | some (_, field) => lang.fields[field]?
  | none => none

/-- The symbol that a kind name stands for, among named or among literal symbols.  Text in error has
the kind `ERROR`, for which any beginning of that name will do. -/
def symbolOfKind? (name : String) (named : Bool) : Option Symbol :=
  if named && name.toList.isPrefixOf "ERROR".toList then some Symbol.error
  else
    (List.range lang.symbols.size).find? fun s =>
      lang.isVisible s && lang.isNamed s == named && lang.symbolName s == name

/-- Whether a field has the name. -/
def hasField (name : String) : Bool := lang.fields.contains name

/-- The names of the visible kinds, named or literal, each once and in ascending order. -/
def kindNames (named : Bool) : List String :=
  let names := (List.range lang.symbols.size).filterMap fun s =>
    if lang.isVisible s && lang.isNamed s == named then some (lang.symbolName s) else none
  (names.mergeSort fun a b => decide (a ≤ b)).eraseDups

end Language

end SyntaxKit
