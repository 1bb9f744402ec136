import SyntaxKit.Shell.Script

/-!
# Reading scripts

The text of a script is first cut into tokens: words, operators and redirections.  Tokens are then
put together to a script.  A script that cannot be read is none.
-/

namespace SyntaxKit

namespace Shell

/-! ## Tokens -/

/-- A token with the line it is on. -/
inductive Token where
  | word (fragments : Word)
  | operator (text : List Char)
  | redirect (stream : Nat) (append : Bool)
  | duplicate (stream other : Nat)
deriving DecidableEq, Repr

/-- Whether a character may stand in the name of a parameter. -/
def isNameCharacter (c : Char) : Bool := c.isAlphanum || c == '_'

/-- Whether a character is a parameter by itself. -/
def isSpecialParameter (c : Char) : Bool := "#$?@*!-0123456789".toList.contains c

/-- The parameter behind a `$`, with the text behind it. -/
def readParameter? : List Char → Option (List Char × List Char)
  | '\x7b' :: t =>
    match t.span (· != '\x7d') with
    | (name, _ :: rest) => some (name, rest)
    | _ => none
  | c :: t =>
    if isSpecialParameter c then some ([c], t)
    else if c.isAlpha || c == '_' then some ((c :: t).span isNameCharacter) else none
  | [] => none

/-- A word that is being read: its fragments, the last first, and whether there is one yet. -/
structure Draft where
  fragments : List Fragment := []
  started : Bool := false

/-- The word with one more character. -/
def Draft.push (d : Draft) (c : Char) (quoted : Bool) : Draft :=
  match d.fragments with
  | .text chars q :: rest =>
    if q = quoted then ⟨.text (chars ++ [c]) q :: rest, true⟩
    else ⟨.text [c] quoted :: .text chars q :: rest, true⟩
  | fragments => ⟨.text [c] quoted :: fragments, true⟩

/-- The word with a parameter. -/
def Draft.parameter (d : Draft) (name : List Char) (quoted : Bool) : Draft :=
  ⟨.parameter name quoted :: d.fragments, true⟩

/-- The word with an empty stretch of quoted text. -/
def Draft.quote (d : Draft) : Draft := ⟨.text [] true :: d.fragments, true⟩

/-- The tokens of a script, with their lines. -/
abbrev Tokens := List (Token × Nat)

/-- The tokens read so far, and the word that ends here if there is one. -/
def Draft.finish (d : Draft) (line : Nat) (tokens : Tokens) : Tokens :=
  if d.started then (.word d.fragments.reverse, line) :: tokens else tokens

/-- Where a reader of tokens is. -/
inductive Mode where
  | plain
  | single
  | double
deriving DecidableEq, Repr

/-- Reads the tokens of a script, the last first.  Each step uses up a character at least, so `fuel`
is the length of the text. -/
def tokensFrom : Nat → Mode → Draft → Nat → List Char → Tokens → Option Tokens
  | _, .plain, d, line, [], tokens => some (d.finish line tokens)
  | _, _, _, _, [], _ => none
  | 0, _, _, _, _ :: _, _ => none
  | fuel + 1, .single, d, line, c :: t, tokens =>
    if c = '\'' then tokensFrom fuel .plain d line t tokens
    else tokensFrom fuel .single (d.push c true) (if c = '\n' then line + 1 else line) t tokens
  | fuel + 1, .double, d, line, c :: t, tokens =>
    match c, t with
    | '"', t => tokensFrom fuel .plain d line t tokens
    | '\\', e :: t =>
      if e = '"' || e = '\\' || e = '$' then
        tokensFrom fuel .double (d.push e true) line t tokens
      else tokensFrom fuel .double ((d.push '\\' true).push e true) line t tokens
    | '$', t =>
      match readParameter? t with
      | some (name, rest) => tokensFrom fuel .double (d.parameter name true) line rest tokens
      | none => tokensFrom fuel .double (d.push '$' true) line t tokens
    | c, t => tokensFrom fuel .double (d.push c true) (if c = '\n' then line + 1 else line) t tokens
  | fuel + 1, .plain, d, line, c :: t, tokens =>
    let closed := d.finish line tokens
    let operator (text : List Char) (rest : List Char) :=
      tokensFrom fuel .plain {} line rest ((.operator text, line) :: closed)
    -- a number directly in front of a redirection names the stream
    let (stream?, before) : Option Nat × Tokens :=
      match d.fragments with
      | [.text [n] false] => if n.isDigit then (some (n.toNat - 48), tokens) else (none, closed)
      | _ => (none, closed)
    match c, t with
    | ' ', t | '\t', t => tokensFrom fuel .plain {} line t closed
    | '\n', t => tokensFrom fuel .plain {} (line + 1) t ((.operator ['\n'], line) :: closed)
    | '#', t =>
      if d.started then tokensFrom fuel .plain (d.push '#' false) line t tokens
      else tokensFrom fuel .plain d line (t.dropWhile (· != '\n')) tokens
    | '\'', t => tokensFrom fuel .single d.quote line t tokens
    | '"', t => tokensFrom fuel .double d.quote line t tokens
    | '\\', '\n' :: t => tokensFrom fuel .plain d (line + 1) t tokens
    | '\\', e :: t => tokensFrom fuel .plain (d.push e true) line t tokens
    | '$', t =>
      match readParameter? t with
      | some (name, rest) => tokensFrom fuel .plain (d.parameter name false) line rest tokens
      | none => tokensFrom fuel .plain (d.push '$' false) line t tokens
    | ';', ';' :: t => operator [';', ';'] t
    | ';', t => operator [';'] t
    | '&', '&' :: t => operator ['&', '&'] t
    | '|', '|' :: t => operator ['|', '|'] t
    | '|', t => operator ['|'] t
    | '&', _ | '<', _ => none
    | '(', t => operator ['('] t
    | ')', t => operator [')'] t
    | '>', '>' :: t =>
      tokensFrom fuel .plain {} line t ((.redirect (stream?.getD 1) true, line) :: before)
    | '>', '&' :: n :: t =>
      if n.isDigit then
        tokensFrom fuel .plain {} line t
          ((.duplicate (stream?.getD 1) (n.toNat - 48), line) :: before)
      else none
    | '>', t =>
      tokensFrom fuel .plain {} line t ((.redirect (stream?.getD 1) false, line) :: before)
    | c, t => tokensFrom fuel .plain (d.push c false) line t tokens

/-- The tokens of a script. -/
def tokens? (text : List Char) : Option Tokens :=
  (tokensFrom text.length .plain {} 1 text []).map List.reverse

/-! ## Scripts -/

/-- The keyword that a token is, if it is written without quotes. -/
def keyword? : Tokens → Option (List Char)
  | (.word [.text chars false], _) :: _ => some chars
  | _ => none

/-- Whether the next token is a given keyword. -/
def isKeyword (word : String) (ts : Tokens) : Bool := keyword? ts == some word.toList

/-- Whether the next token is a given operator. -/
def isOperator (text : String) : Tokens → Bool
  | (.operator t, _) :: _ => t == text.toList
  | _ => false

/-- The tokens behind a keyword that has to come next. -/
def expect? (word : String) (ts : Tokens) : Option Tokens :=
  if isKeyword word ts then some ts.tail else none

/-- The tokens behind any line ends. -/
def skipLines (ts : Tokens) : Tokens :=
  ts.dropWhile fun t => t.1 == .operator ['\n']

/-- The redirections at the start of some tokens. -/
def readRedirections : Tokens → List Redirection × Tokens
  | (.redirect stream append, _) :: (.word file, _) :: ts =>
    let (rs, ts) := readRedirections ts
    (.toFile stream file append :: rs, ts)
  | (.duplicate stream other, _) :: ts =>
    let (rs, ts) := readRedirections ts
    (.toStream stream other :: rs, ts)
  | ts => ([], ts)

/-- The words and redirections of a simple command. -/
def readSimple : Tokens → List Word × List Redirection × Tokens
  | (.word w, _) :: ts =>
    let (ws, rs, ts) := readSimple ts
    (w :: ws, rs, ts)
  | (.redirect stream append, _) :: (.word file, _) :: ts =>
    let (ws, rs, ts) := readSimple ts
    (ws, .toFile stream file append :: rs, ts)
  | (.duplicate stream other, _) :: ts =>
    let (ws, rs, ts) := readSimple ts
    (ws, .toStream stream other :: rs, ts)
  | ts => ([], [], ts)

/-- The assignment that a word is, if it is one. -/
def assignment? : Word → Option (List Char × Word)
  | .text chars false :: rest =>
    match chars.span (· != '=') with
    | (name, _ :: value) =>
      if name.all isNameCharacter && !name.isEmpty && !(name.head?.any Char.isDigit) then
        some (name, if value = [] then rest else .text value false :: rest)
      else none
    | _ => none
  | _ => none

/-- The assignments at the start of a simple command, and its other words. -/
def splitAssignments : List Word → List (List Char × Word) × List Word
  | [] => ([], [])
  | w :: ws =>
    match assignment? w with
    | some a =>
      let (as, ws) := splitAssignments ws
      (a :: as, ws)
    | none => ([], w :: ws)

/-- The words between `|` signs and the `)` behind them.  There is one word at least. -/
def readPatterns : Nat → Tokens → Option (List Word × Tokens)
  | 0, _ => none
  | fuel + 1, (.word w, _) :: ts =>
    if isOperator ")" ts then some ([w], ts.tail)
    else if isOperator "|" ts then
      (readPatterns fuel ts.tail).map fun (ws, ts) => (w :: ws, ts)
    else none
  | _, _ => none

/-- The keywords at which a list of commands ends. -/
def closers : List (List Char) :=
  ["then", "elif", "else", "fi", "esac", "\x7d"].map String.toList

/-- Whether a list of commands ends here. -/
def isEnd (ts : Tokens) : Bool :=
  ts.isEmpty || isOperator ")" ts || isOperator ";;" ts || (keyword? ts).any closers.contains

mutual

/-- Reads commands up to the end of a list. -/
def readList : Nat → Tokens → Option (Script × Tokens)
  | 0, _ => none
  | fuel + 1, ts =>
    let ts := skipLines ts
    if isEnd ts then some (.empty, ts)
    else
      (readChain fuel ts).bind fun (first, ts) =>
        if isOperator ";" ts || isOperator "\n" ts then
          (readList fuel ts.tail).map fun (rest, ts) => (.sequence first rest, ts)
        else some (first, ts)

/-- Reads commands joined by `&&` and `||`. -/
def readChain : Nat → Tokens → Option (Script × Tokens)
  | 0, _ => none
  | fuel + 1, ts =>
    (readCommand fuel ts).bind fun (first, ts) => readChainAfter fuel first ts

/-- Reads what is joined to a command by `&&` and `||`; both bind to the left. -/
def readChainAfter : Nat → Script → Tokens → Option (Script × Tokens)
  | 0, _, _ => none
  | fuel + 1, first, ts =>
    if isOperator "&&" ts then
      (readCommand fuel (skipLines ts.tail)).bind fun (second, ts) =>
        readChainAfter fuel (.both first second) ts
    else if isOperator "||" ts then
      (readCommand fuel (skipLines ts.tail)).bind fun (second, ts) =>
        readChainAfter fuel (.either first second) ts
    else some (first, ts)

/-- Reads a command. -/
def readCommand : Nat → Tokens → Option (Script × Tokens)
  | 0, _ => none
  | fuel + 1, ts =>
    let line := (ts.head?.map Prod.snd).getD 0
    let redirected (r : Script × Tokens) : Script × Tokens :=
      match readRedirections r.2 with
      | ([], ts) => (r.1, ts)
      | (rs, ts) => (.redirected line r.1 rs, ts)
    if isKeyword "!" ts then
      (readCommand fuel ts.tail).map fun (body, ts) => (.negated body, ts)
    else if isKeyword "\x7b" ts then
      (readList fuel ts.tail).bind fun (body, ts) =>
        (expect? "\x7d" ts).map fun ts => redirected (body, ts)
    else if isOperator "(" ts then
      (readList fuel ts.tail).bind fun (body, ts) =>
        if isOperator ")" ts then some (redirected (body, ts.tail)) else none
    else if isKeyword "if" ts then (readConditional fuel ts.tail).map redirected
    else if isKeyword "case" ts then
      match ts.tail with
      | (.word subject, _) :: ts =>
        (expect? "in" (skipLines ts)).bind fun ts => (readArms fuel subject ts).map redirected
      | _ => none
    else
      match readSimple ts with
      | ([], [], _) => none
      | (words, redirections, ts) =>
        let (assignments, words) := splitAssignments words
        some (.simple line assignments words redirections, ts)

/-- Reads a conditional behind its `if` or `elif`. -/
def readConditional : Nat → Tokens → Option (Script × Tokens)
  | 0, _ => none
  | fuel + 1, ts =>
    (readList fuel ts).bind fun (test, ts) =>
      (expect? "then" ts).bind fun ts =>
        (readList fuel ts).bind fun (yes, ts) =>
          if isKeyword "elif" ts then
            (readConditional fuel ts.tail).map fun (no, ts) => (.conditional test yes no, ts)
          else if isKeyword "else" ts then
            (readList fuel ts.tail).bind fun (no, ts) =>
              (expect? "fi" ts).map fun ts => (.conditional test yes no, ts)
          else (expect? "fi" ts).map fun ts => (.conditional test yes .empty, ts)

/-- Reads the arms of a `case` up to its `esac`. -/
def readArms : Nat → Word → Tokens → Option (Script × Tokens)
  | 0, _, _ => none
  | fuel + 1, subject, ts =>
    let ts := skipLines ts
    if isKeyword "esac" ts then some (.empty, ts.tail)
    else
      let ts := if isOperator "(" ts then ts.tail else ts
      (readPatterns fuel ts).bind fun (patterns, ts) =>
        (readList fuel ts).bind fun (body, ts) =>
          let ts := if isOperator ";;" ts then ts.tail else ts
          (readArms fuel subject ts).map fun (otherwise, ts) =>
            (.choice subject patterns body otherwise, ts)

end

/-- The script that a text is.  Every reader uses a token at least or passes on to the next, and
there are seven of them. -/
def read? (text : List Char) : Option Script :=
  (tokens? text).bind fun ts =>
    match readList (8 * (ts.length + 1)) ts with
    | some (script, []) => some script
    | _ => none

end Shell

end SyntaxKit
