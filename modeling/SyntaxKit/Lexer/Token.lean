import SyntaxKit.Lexer.Scan
import SyntaxKit.Tree.Basic

/-!
# Reading tokens

`Lexer.next` reads the token at a position in the lexical state that the parser is in.  Where no
token of that state is found, the lexical state of recovery is tried, which knows almost all tokens.
Where that fails too, characters are skipped until it succeeds, and all of them together become one
token in error.  The end of the text is a token of recovery, so reading always comes to an end.

A word is read as an identifier first.  It becomes a keyword if it is one and if the parser can act
on that keyword in its state; whatever becomes of it, the token records whether the text begins like
a keyword.
-/

namespace SyntaxKit

namespace Lexer

variable (lang : Language)

/-- Whether `word` is the beginning of `text`, and if so what follows. -/
def strip? : List Char → List Char → Option (List Char)
  | [], text => some text
  | _ :: _, [] => none
  | w :: word, c :: text => if w = c then strip? word text else none

/-- The longest keyword that the text begins with, and its length in bytes. -/
def keywordAt? (text : List Char) : Option (Nat × Symbol) :=
  lang.keywords.foldl
    (fun best (word, symbol) =>
      match strip? word text with
      | none => best
      | some _ =>
        let bytes := Text.byteLength word
        match best with
        | some (longest, _) => if longest < bytes then some (bytes, symbol) else best
        | none => some (bytes, symbol))
    none

/-- The stretch of text being skipped because no token begins there. -/
structure Skipped where
  start : Extent
  stop : Extent
  culprit : Char

/-- What reading came to, with the furthest offset that was looked at. -/
inductive Reading where
  | token (symbol : Symbol) (start stop : Extent)
  | garbage (s : Skipped)

/-- Skips characters until the recovery automaton recognises a token; `pos` is where it is started
next and `furthest` how far the text has been looked at. -/
def skip (src : Source) : Nat → Skipped → Extent → Nat → Reading × Nat
  | 0, s, _, furthest => (.garbage s, furthest)
  | fuel + 1, s, pos, furthest =>
    let r := scan lang src (lang.lexState ParseState.recovering) pos
    let furthest := max furthest (r.stop.bytes + 1)
    match r.found with
    | some _ => (.garbage s, furthest)
    | none =>
      if r.stop.bytes = s.stop.bytes then
        match src.suffixAt r.stop.bytes with
        | [] => (.garbage s, furthest)
        | c :: _ =>
          let pos := r.stop.push c
          skip src fuel { s with stop := pos } pos furthest
      else skip src fuel { s with stop := r.stop } r.stop furthest

/-- Starts skipping after a failed run of the recovery automaton. -/
def beginSkip (src : Source) (r : Scan) (furthest : Nat) : Reading × Nat :=
  let fuel := src.suffixes.size + 1
  if r.stop.bytes = r.start.bytes then
    match src.suffixAt r.stop.bytes with
    | [] => (.garbage ⟨r.start, r.start, r.next⟩, furthest)
    | c :: _ =>
      let pos := r.stop.push c
      skip lang src fuel ⟨r.start, pos, r.next⟩ pos furthest
  else skip lang src fuel ⟨r.start, r.stop, r.next⟩ r.stop furthest

/-- Reads at a position: in the lexical state of a parse state, then in that of recovery. -/
def read (src : Source) (state : ParseState) (pos : Extent) : Reading × Nat :=
  let r := scan lang src (lang.lexState state) pos
  let furthest := r.stop.bytes + 1
  match r.found with
  | some (symbol, stop) => (.token symbol r.start stop, furthest)
  | none =>
    let r :=
      if state = ParseState.recovering then r
      else scan lang src (lang.lexState ParseState.recovering) pos
    let furthest := max furthest (r.stop.bytes + 1)
    match r.found with
    | some (symbol, stop) => (.token symbol r.start stop, furthest)
    | none => beginSkip lang src r furthest

/-- Decides whether an identifier is a keyword: the symbol it stands for in a parse state, and
whether it begins like a keyword. -/
def classify (src : Source) (state : ParseState) (start stop : Extent) : Symbol × Bool :=
  match keywordAt? lang (src.suffixAt start.bytes) with
  | some (bytes, symbol) =>
    if start.bytes + bytes = stop.bytes && lang.hasActions state symbol then (symbol, true)
    else (lang.wordToken, true)
  | none => (lang.wordToken, false)

/-- Reads the next token at a position, in a parse state. -/
def next (src : Source) (state : ParseState) (pos : Extent) : Token :=
  match read lang src state pos with
  | (.garbage s, furthest) =>
    { symbol := Symbol.error
      padding := s.start - pos
      size := s.stop - s.start
      lookahead := furthest - s.stop.bytes
      state
      keyword := false, missing := false, extra := false, changed := false
      culprit := s.culprit }
  | (.token symbol start stop, furthest) =>
    let (symbol, keyword) :=
      if symbol = lang.wordToken then classify lang src state start stop else (symbol, false)
    { symbol
      padding := start - pos
      size := stop - start
      lookahead := furthest - stop.bytes
      state, keyword
      missing := false
      extra := symbol == Symbol.endOfText
      changed := false
      culprit := '\x00' }

end Lexer

end SyntaxKit
