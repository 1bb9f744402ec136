/-!
# The texts of tokens

Tokens are defined by regular expressions over characters.  `Matches` says which texts one stands
for.
-/

namespace SyntaxKit.Grammar

/-- A set of characters: those within some inclusive ranges, or all but those. -/
structure CharClass where
  ranges : List (Char × Char)
  negated : Bool
deriving DecidableEq, Repr, Inhabited

namespace CharClass

/-- Whether a character is in the set. -/
def contains (s : CharClass) (c : Char) : Bool :=
  (s.ranges.any fun r => r.1.toNat ≤ c.toNat && c.toNat ≤ r.2.toNat) != s.negated

end CharClass

/-- A regular expression; `repeated` is any number of times. -/
inductive Pattern where
  | nothing
  | blank
  | char (s : CharClass)
  | seq (p q : Pattern)
  | choice (p q : Pattern)
  | repeated (p : Pattern)
deriving DecidableEq, Repr, Inhabited

namespace Pattern

/-- A character within one of the ranges. -/
def within (ranges : List (Char × Char)) : Pattern := char ⟨ranges, false⟩

/-- A character within none of the ranges. -/
def except (ranges : List (Char × Char)) : Pattern := char ⟨ranges, true⟩

/-- One of some characters. -/
def oneOf (cs : List Char) : Pattern := within (cs.map fun c => (c, c))

/-- None of some characters. -/
def noneOf (cs : List Char) : Pattern := except (cs.map fun c => (c, c))

/-- One after the other. -/
def seqs : List Pattern → Pattern
  | [] => blank
  | [p] => p
  | p :: ps => seq p (seqs ps)

/-- One of them. -/
def choices : List Pattern → Pattern
  | [] => nothing
  | [p] => p
  | p :: ps => choice p (choices ps)

/-- At most once. -/
def optional (p : Pattern) : Pattern := choice p blank

/-- One or more times. -/
def many (p : Pattern) : Pattern := seq p (repeated p)

/-- The text as it stands. -/
def text (cs : List Char) : Pattern := seqs (cs.map fun c => oneOf [c])

/-- The texts that a pattern stands for. -/
inductive Matches : Pattern → List Char → Prop
  | blank : Matches .blank []
  | char {s : CharClass} {c : Char} (h : s.contains c = true) : Matches (.char s) [c]
  | seq {p q : Pattern} {s t : List Char} (first : Matches p s) (second : Matches q t) :
      Matches (.seq p q) (s ++ t)
  | left {p : Pattern} (q : Pattern) {s : List Char} (h : Matches p s) : Matches (.choice p q) s
  | right (p : Pattern) {q : Pattern} {s : List Char} (h : Matches q s) : Matches (.choice p q) s
  | done (p : Pattern) : Matches (.repeated p) []
  | again {p : Pattern} {s t : List Char} (first : Matches p s)
      (rest : Matches (.repeated p) t) : Matches (.repeated p) (s ++ t)

end Pattern

end SyntaxKit.Grammar
