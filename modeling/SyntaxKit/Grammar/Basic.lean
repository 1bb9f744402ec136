import SyntaxKit.Grammar.Pattern
import SyntaxKit.Grammar.Rule

/-!
# Nodes and programs of a grammar

`Grammar.visible` reads the rules of a grammar as the nodes of a tree show them, and
`Grammar.lexical` reads them as sequences of tokens.  A text is a program of the grammar if a
sequence of tokens that the start rule has spells it, with extras, such as blank space and comments,
anywhere between the tokens (`Grammar.IsProgram`).
-/

namespace SyntaxKit

/-- The rules of a grammar, those whose nodes show and those whose nodes do not; the tokens that have
a name; what may stand anywhere between tokens; and the rule that whole texts follow. -/
structure Grammar where
  start : String
  rules : List (String × Grammar.Rule)
  hidden : List (String × Grammar.Rule)
  tokens : List (String × Grammar.Pattern)
  extras : List Grammar.Pattern

namespace Grammar

variable (g : Grammar)

/-- The rule that a node of the kind follows. -/
def rule? : Kind → Option Rule
  | .rule name => (g.rules ++ g.hidden).lookup name
  | .literal _ | .separator => none

/-- The texts that a token of the kind may have. -/
def pattern? : Kind → Option Pattern
  | .rule name => g.tokens.lookup name
  | .literal text => some (.text text.toList)
  | .separator => some (.text ['\n'])

/-- The rules as the nodes of a tree show them: the children of hidden nodes stand in their place,
and a separator does not show. -/
def visible : Reading where
  keeps
    | .rule name => (g.hidden.lookup name).isNone
    | .literal _ => true
    | .separator => false
  expand?
    | .rule name => g.hidden.lookup name
    | .literal _ => none
    | .separator => some .blank
  list? _ := none

/-- The rules as sequences of tokens. -/
def lexical : Reading where
  keeps k := (g.pattern? k).isSome
  expand? := g.rule?
  list? _ := none

/-- Some tokens spell a text, with extras anywhere before, between and behind them. -/
inductive Spells : List Kind → List Char → Prop
  | nil : Spells [] []
  | extra {p : Pattern} {body : List Char} {ks : List Kind} {text : List Char} (h : p ∈ g.extras)
      (body_matches : p.Matches body) (rest : Spells ks text) : Spells ks (body ++ text)
  | token {k : Kind} {p : Pattern} {body : List Char} {ks : List Kind} {text : List Char}
      (h : g.pattern? k = some p) (body_matches : p.Matches body) (rest : Spells ks text) :
      Spells (k :: ks) (body ++ text)

/-- A text is a program: what follows the byte-order mark, if there is one at its start, is spelled
by tokens that the start rule has. -/
def IsProgram (text : List Char) : Prop :=
  ∃ w rest, Word g.lexical none (.item (.rule g.start)) w ∧ g.Spells (w.map (·.kind)) rest
    ∧ (text = rest ∨ text = '\uFEFF' :: rest)

end Grammar

end SyntaxKit
