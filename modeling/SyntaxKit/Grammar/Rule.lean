/-!
# Grammars

A grammar gives for every kind of node the sequences of children that such a node may have, and for
every token the texts that it may stand for.  The right-hand side of a rule is a regular expression
over kinds, in which parts carry the fields of the children that they stand for.  Precedences are no
part of it: they choose between the ways to read a text and allow none that there would not be
without them.

Some rules are hidden: where a rule refers to one of them, its nodes do not show and their children
stand in their place.  `Word` says which sequences of letters a rule has, for every way to choose
what is expanded in place (a `Reading`).
-/

namespace SyntaxKit.Grammar

/-- What may stand in a rule: a node or token by its name, literal text, or the line break that
separates without being named. -/
inductive Kind where
  | rule (name : String)
  | literal (text : String)
  | separator
deriving DecidableEq, Repr, Inhabited

/-- The right-hand side of a rule; `many` is one or more times. -/
inductive Rule where
  | blank
  | item (k : Kind)
  | seq (r s : Rule)
  | choice (r s : Rule)
  | many (r : Rule)
  | field (name : String) (r : Rule)
deriving DecidableEq, Repr, Inhabited

namespace Rule

/-- A node or token by its name. -/
def ref (name : String) : Rule := item (.rule name)

/-- Literal text. -/
def lit (text : String) : Rule := item (.literal text)

/-- One after the other. -/
def seqs : List Rule → Rule
  | [] => blank
  | [r] => r
  | r :: rs => seq r (seqs rs)

/-- One of them. -/
def choices : List Rule → Rule
  | [] => blank
  | [r] => r
  | r :: rs => choice r (choices rs)

/-- At most once. -/
def optional (r : Rule) : Rule := choice r blank

/-- Any number of times. -/
def repeated (r : Rule) : Rule := optional (many r)

/-- One or more times, with a separator in between. -/
def separated (separator r : Rule) : Rule := seq r (repeated (seq separator r))

end Rule

/-- A child as its parent sees it: its kind and its field. -/
structure Letter where
  kind : Kind
  field : Option String
deriving DecidableEq, Repr, Inhabited

/-- A way to read the rules of a grammar: the kinds that stay as they are, the rules that take the
place of kinds, and the kinds that stand for a repetition of something. -/
structure Reading where
  keeps : Kind → Bool
  expand? : Kind → Option Rule
  list? : Kind → Option Rule

/-- The sequences of letters that a rule has, where it stands for children with the given field. -/
inductive Word (v : Reading) : Option String → Rule → List Letter → Prop
  | blank (f : Option String) : Word v f .blank []
  | keep (f : Option String) {k : Kind} (h : v.keeps k = true) : Word v f (.item k) [⟨k, f⟩]
  | expand {f : Option String} {k : Kind} {r : Rule} {w : List Letter}
      (h : v.expand? k = some r) (word : Word v f r w) : Word v f (.item k) w
  | seq {f : Option String} {r s : Rule} {w w' : List Letter} (first : Word v f r w)
      (second : Word v f s w') : Word v f (.seq r s) (w ++ w')
  | left {f : Option String} {r : Rule} (s : Rule) {w : List Letter} (h : Word v f r w) :
      Word v f (.choice r s) w
  | right {f : Option String} (r : Rule) {s : Rule} {w : List Letter} (h : Word v f s w) :
      Word v f (.choice r s) w
  | once {f : Option String} {r : Rule} {w : List Letter} (h : Word v f r w) :
      Word v f (.many r) w
  | more {f : Option String} {r : Rule} {w w' : List Letter} (first : Word v f (.many r) w)
      (second : Word v f (.many r) w') : Word v f (.many r) (w ++ w')
  | list (f : Option String) {k : Kind} {r : Rule} (h : v.list? k = some r) :
      Word v f (.many r) [⟨k, f⟩]
  | field {f : Option String} {name : String} {r : Rule} {w : List Letter}
      (h : Word v (some name) r w) : Word v f (.field name r) w

end SyntaxKit.Grammar
