import SyntaxKit.Text.Alphanumeric
import SyntaxKit.Text.Blank

/-!
# Regular expressions

Regular expressions over characters with assertions about the place, and whether one occurs in a
text.  `Expression.ends` gives all places at which a match that begins at a given place can end, so
the order in which alternatives would be tried plays no part.
-/

namespace SyntaxKit.Regex

/-- A set of characters. -/
inductive CharSet where
  /-- The code points in some inclusive ranges. -/
  | ranges (rs : List (Nat × Nat))
  | complement (s : CharSet)
  | union (a b : CharSet)
  | intersection (a b : CharSet)
  /-- The characters of a set in either case. -/
  | caseless (s : CharSet)
deriving Repr, Inhabited

namespace CharSet

/-- The characters that differ from one only in case.  Besides the ASCII letters the long s and the
Kelvin sign have their place here, being forms of `s` and `k`. -/
def caseVariants (c : Char) : List Char :=
  let other := if c.isLower then [c.toUpper] else if c.isUpper then [c.toLower] else []
  let form (lower upper special : Char) : List Char :=
    if c == special then [lower, upper] else if c == lower || c == upper then [special] else []
  c :: other ++ form 's' 'S' 'ſ' ++ form 'k' 'K' '\u212a'

/-- Whether a character is in a set. -/
def contains : CharSet → Char → Bool
  | ranges rs, c => Text.inRanges rs c
  | complement s, c => !s.contains c
  | union a b, c => a.contains c || b.contains c
  | intersection a b, c => a.contains c && b.contains c
  | caseless s, c => (caseVariants c).any s.contains

/-- The set of one character. -/
def single (c : Char) : CharSet := ranges [(c.toNat, c.toNat)]

/-- The empty set. -/
def none : CharSet := ranges []

end CharSet

/-- A statement about a place in a text. -/
inductive Assertion where
  | textStart
  | textEnd
  /-- The start of a line; with `crlf`, lines end at `\r\n`, `\r` and `\n`. -/
  | lineStart (crlf : Bool)
  | lineEnd (crlf : Bool)
  | wordBoundary (ascii : Bool)
  | noWordBoundary (ascii : Bool)
  | wordStart (ascii : Bool)
  | wordEnd (ascii : Bool)
  | wordStartHalf (ascii : Bool)
  | wordEndHalf (ascii : Bool)
deriving DecidableEq, Repr

/-- A regular expression. -/
inductive Expression where
  | empty
  | char (s : CharSet)
  | assertion (a : Assertion)
  | sequence (a b : Expression)
  | choice (a b : Expression)
  /-- At least `least` times and, if a bound is given, at most so many times. -/
  | repetition (e : Expression) (least : Nat) (most : Option Nat)
deriving Repr, Inhabited

/-- A place in a text: its index, the character before it, and the rest of the text. -/
structure Place where
  index : Nat
  before : Option Char
  rest : List Char

namespace Assertion

/-- Whether a character belongs to a word. -/
def inWord (ascii : Bool) : Option Char → Bool
  | none => false
  | some c => if ascii then c.isAlphanum || c == '_' else Text.isWordCharacter c

/-- Whether an assertion is true of a place. -/
def holds (a : Assertion) (p : Place) : Bool :=
  let after := p.rest.head?
  match a with
  | textStart => p.before.isNone
  | textEnd => after.isNone
  | lineStart crlf =>
    p.before.isNone || p.before == some '\n'
      || (crlf && p.before == some '\r' && after != some '\n')
  | lineEnd crlf =>
    after.isNone || (after == some '\n' && !(crlf && p.before == some '\r'))
      || (crlf && after == some '\r')
  | wordBoundary ascii => inWord ascii p.before != inWord ascii after
  | noWordBoundary ascii => inWord ascii p.before == inWord ascii after
  | wordStart ascii => !inWord ascii p.before && inWord ascii after
  | wordEnd ascii => inWord ascii p.before && !inWord ascii after
  | wordStartHalf ascii => !inWord ascii p.before
  | wordEndHalf ascii => !inWord ascii after

end Assertion

namespace Expression

/-- Adds the places of a list that are not in another one. -/
def merge (found : List Place) : List Place → List Place
  | [] => found
  | p :: rest =>
    merge (if found.any (·.index == p.index) then found else p :: found) rest

/-- Repeats a step exactly so many times, beginning at several places. -/
def iterate (step : Place → List Place) : Nat → List Place → List Place
  | 0, places => places
  | _, [] => []
  | n + 1, places => iterate step n (merge [] (places.flatMap step))

/-- The places reached by at most so many more steps; `front` holds those reached last. -/
def closure (step : Place → List Place) : Nat → List Place → List Place → List Place
  | 0, _, found => found
  | _, [], found => found
  | n + 1, front, found =>
    let fresh := (merge [] (front.flatMap step)).filter fun p =>
      !found.any (·.index == p.index)
    closure step n fresh (fresh ++ found)

/-- The places at which a match that begins at `p` can end. -/
def ends : Expression → Place → List Place
  | empty, p => [p]
  | char s, p =>
    match p.rest with
    | [] => []
    | c :: rest => if s.contains c then [⟨p.index + 1, some c, rest⟩] else []
  | assertion a, p => if a.holds p then [p] else []
  | sequence a b, p => merge [] ((a.ends p).flatMap b.ends)
  | choice a b, p => merge (a.ends p) (b.ends p)
  | repetition e least most, p =>
    let first := iterate e.ends least [p]
    let more := match most with
      | some n => n - least
      | none => p.rest.length + 1
    closure e.ends more first first

/-- Whether a match begins at one of the places from `p` on. -/
def occursFrom (e : Expression) (index : Nat) (before : Option Char) : List Char → Bool
  | [] => !(e.ends ⟨index, before, []⟩).isEmpty
  | c :: rest =>
    !(e.ends ⟨index, before, c :: rest⟩).isEmpty || occursFrom e (index + 1) (some c) rest

/-- Whether the expression matches some part of a text. -/
def occursIn (e : Expression) (text : List Char) : Bool := occursFrom e 0 none text

end Expression

end SyntaxKit.Regex
