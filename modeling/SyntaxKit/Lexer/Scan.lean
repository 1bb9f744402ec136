import SyntaxKit.Language.Basic
import SyntaxKit.Text.Source

/-!
# Running the lexical automaton

`Lexer.scan` runs the automaton from one of its states over the rest of a text and reports the last
token that it recognised on the way, where the token starts after the blank space before it, and
where the automaton stopped.  The automaton runs on past a recognised token as long as it can, so
the answer is the longest match.
-/

namespace SyntaxKit

namespace LexEdge

/-- Whether the edge is taken on a character. -/
def admits (e : LexEdge) (c : Char) : Bool :=
  e.ranges.any fun r => r.1 ≤ c.toNat && c.toNat ≤ r.2

end LexEdge

/-- What a run of the lexical automaton found. -/
structure Scan where
  /-- Where the token begins, after blank space. -/
  start : Extent
  /-- Where the automaton stopped. -/
  stop : Extent
  /-- The character at which it stopped, NUL at the end of the text. -/
  next : Char
  /-- The last token recognised and where it ends. -/
  found : Option (Symbol × Extent)
deriving Repr, Inhabited

namespace Lexer

/-- The byte-order mark, which is passed over at the very start of a text. -/
def byteOrderMark : Char := '\uFEFF'

/-- The token recognised on arrival in a state, or else the one recognised before. -/
def arrive (s : LexState) (pos : Extent) (found : Option (Symbol × Extent)) :
    Option (Symbol × Extent) :=
  match s.accepts with
  | some symbol => some (symbol, pos)
  | none => found

/-- Runs the automaton from `state` over the rest of the text, which begins at `pos`. -/
def run (lang : Language) (state : Nat) (rest : List Char) (start pos : Extent)
    (found : Option (Symbol × Extent)) : Scan :=
  let s := lang.lexStates.getD state default
  let found := arrive s pos found
  match rest with
  | [] =>
    let found :=
      match s.atEnd with
      | some last => arrive (lang.lexStates.getD last default) pos found
      | none => found
    ⟨start, pos, '\x00', found⟩
  | c :: rest =>
    match s.edges.find? (·.admits c) with
    | none => ⟨start, pos, c, found⟩
    | some e =>
      let pos := pos.push c
      run lang e.target rest (if e.skips then pos else start) pos found

/-- Runs the automaton from `state` at a position of the text, passing over a byte-order mark at the
start of the text. -/
def scan (lang : Language) (src : Source) (state : Nat) (pos : Extent) : Scan :=
  match pos.bytes, src.suffixAt pos.bytes with
  | 0, c :: rest =>
    if c = byteOrderMark then run lang state rest (pos.push c) (pos.push c) none
    else run lang state (c :: rest) pos pos none
  | _, rest => run lang state rest pos pos none

end Lexer

end SyntaxKit
