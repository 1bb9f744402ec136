import SyntaxKit.Query.Error
import SyntaxKit.Query.Pattern
import SyntaxKit.Text.Source

/-!
# Reading queries

A query is a list of patterns in parenthesised form.  The reader walks over the text with a cursor
that knows its byte offset; it resolves the names of kinds and fields on the way, gives captures
their numbers in the order in which they first appear, and collects the conditions that stand among
the patterns.  Where the text breaks the rules the reader stops with a cause and an offset.

All loops are bounded by twice the length of the text, since at least every other turn consumes a
character.
-/

namespace SyntaxKit.Query

/-- An argument of a condition. -/
inductive Argument where
  | capture (index : Nat)
  | literal (text : List Char)
deriving DecidableEq, Repr

/-- A condition as it is written: a name that ends in `?` or `!`, and arguments. -/
structure Clause where
  name : String
  arguments : List Argument
deriving DecidableEq, Repr

/-- How far a query has been read: the rest of the text and its byte offset, the captures so far,
the conditions of the current pattern, the last one first, and how many steps the patterns so far
make. -/
structure Cursor where
  rest : List Char
  offset : Nat
  captures : List String
  clauses : List Clause
  steps : Nat

/-- A refusal: its cause and a byte offset. -/
abbrev Fault := QueryError.Cause × Nat

/-- A computation that reads. -/
abbrev Reading (α : Type) := StateT Cursor (Except Fault) α

namespace Reading

/-- Whether a character may begin a name. -/
def startsName (c : Char) : Bool := c.isAlphanum || c == '_' || c == '-'

/-- Whether a character may be inside a name. -/
def continuesName (c : Char) : Bool := startsName c || c == '.'

/-- Whether a character is blank in a query. -/
def isSpace (c : Char) : Bool := c == ' ' || (9 ≤ c.toNat && c.toNat ≤ 13)

/-- The character under the cursor. -/
def peek : Reading (Option Char) := return (← get).rest.head?

/-- The cursor's byte offset. -/
def offset : Reading Nat := return (← get).offset

/-- Moves over one character. -/
def skip : Reading Unit := modify fun r =>
  match r.rest with
  | [] => r
  | c :: rest => { r with rest, offset := r.offset + c.utf8Size }

/-- Moves over the characters at the cursor that satisfy a condition, and returns them. -/
def takeWhile (p : Char → Bool) : Reading (List Char) := modifyGet fun r =>
  let (taken, rest) := r.rest.span p
  (taken, { r with rest, offset := r.offset + Text.byteLength taken })

/-- Stops with a cause at an offset. -/
def failAt {α : Type} (cause : QueryError.Cause) (offset : Nat) : Reading α :=
  throw (cause, offset)

/-- Stops at the cursor: the text does not follow the rules. -/
def fail {α : Type} : Reading α := do failAt .malformed (← offset)

/-- Moves over blanks and comments; a comment goes from `;` to the end of the line. -/
def skipBlanks : Nat → Reading Unit
  | 0 => return ()
  | fuel + 1 => do
    let _ ← takeWhile isSpace
    if (← peek) == some ';' then
      let _ ← takeWhile fun c => c != '\n' && c != '\x00'
      skipBlanks fuel

/-- A bound for loops that consume the text. -/
def bound : Reading Nat := return 2 * (← get).rest.length + 2

/-- Moves over all blanks and comments. -/
def blanks : Reading Unit := do skipBlanks (← bound)

/-- Reads a name; there is none if the cursor is not at its first character. -/
def name? : Reading (Option (List Char)) := do
  match ← peek with
  | some c => if startsName c then return some (← takeWhile continuesName) else return none
  | none => return none

/-- What a backslash before a character stands for. -/
def unescape (c : Char) : Char :=
  if c = 'n' then '\n' else if c = 'r' then '\r' else if c = 't' then '\t'
  else if c = '0' then '\x00' else c

/-- The value of a quoted text, read behind its first quote, with the rest behind its last one. -/
def quoted : List Char → List Char → Option (List Char × List Char)
  | [], _ => none
  | '"' :: rest, value => some (value.reverse, rest)
  | '\\' :: c :: rest, value => quoted rest (unescape c :: value)
  | c :: rest, value => if c = '\n' || c = '\\' then none else quoted rest (c :: value)

/-- Reads a quoted text; the cursor is at its first quote. -/
def string : Reading (List Char) := do
  let r ← get
  match quoted (r.rest.drop 1) [] with
  | some (value, rest) =>
    let size := Text.byteLength r.rest - Text.byteLength rest
    set { r with rest, offset := r.offset + size }
    return value
  | none => fail

/-- The number of a capture name, which is new unless it was used before. -/
def captureIndex (name : String) : Reading Nat := modifyGet fun r =>
  match r.captures.idxOf? name with
  | some i => (i, r)
  | none => (r.captures.length, { r with captures := r.captures ++ [name] })

/-- Counts a step that the pattern read makes. -/
def countStep : Reading Unit := modify fun r => { r with steps := r.steps + 1 }

/-! ## Conditions -/

/-- Reads the arguments of a condition up to its closing parenthesis. -/
def arguments : Nat → List Argument → Reading (List Argument)
  | 0, _ => fail
  | fuel + 1, seen => do
    match ← peek with
    | some ')' =>
      skip
      blanks
      return seen.reverse
    | some '@' =>
      skip
      let start ← offset
      match ← name? with
      | none => fail
      | some name =>
        match (← get).captures.idxOf? (String.ofList name) with
        | none => failAt .unknownCapture start
        | some i =>
          blanks
          arguments fuel (.capture i :: seen)
    | some '"' =>
      let text ← string
      blanks
      arguments fuel (.literal text :: seen)
    | _ =>
      match ← name? with
      | none => fail
      | some name =>
        blanks
        arguments fuel (.literal name :: seen)

/-- Reads a condition behind its `#`. -/
def clause : Reading Unit := do
  match ← name? with
  | none => fail
  | some name =>
    match ← peek with
    | some c =>
      if c != '?' && c != '!' then fail
      skip
      blanks
      let args ← arguments (← bound) []
      modify fun r =>
        { r with clauses := ⟨String.ofList (name ++ [c]), args⟩ :: r.clauses }
    | none => fail

/-! ## Patterns -/

variable (lang : Language)

/-- The symbol of a kind of nodes; an unknown one is refused at the given offset. -/
def kind (name : List Char) (named : Bool) (start : Nat) : Reading Symbol :=
  match lang.symbolOfKind? (String.ofList name) named with
  | some s => return s
  | none => failAt .unknownKind start

/-- Reads what follows the word for nodes that the text lacks: a kind, or nothing for any. -/
def missingTest : Reading NodeTest := do
  blanks
  let start ← offset
  match ← peek with
  | some '"' =>
    let text ← string
    return ⟨some (← kind lang text false (start + 1)), false, true⟩
  | some ')' => return ⟨none, true, true⟩
  | _ =>
    match ← name? with
    | some name => return ⟨some (← kind lang name true start), false, true⟩
    | none => fail

/-- Reads the kind of a node behind the opening parenthesis.  Any beginning of the word `MISSING`
asks for nodes that the text lacks; no kind has subkinds. -/
def nodeTest : Reading NodeTest := do
  let start ← offset
  match ← name? with
  | none => fail
  | some name =>
    let test ←
      if name = ['_'] then pure ⟨none, true, false⟩
      else if name.isPrefixOf "MISSING".toList then missingTest lang
      else pure ⟨some (← kind lang name true start), false, false⟩
    if (← peek) == some '/' then failAt .impossible (start - 1)
    return test

/-- Reads the name of a field that a node must not have, behind the `!`. -/
def absentField : Reading String := do
  blanks
  let start ← offset
  match ← name? with
  | none => fail
  | some name =>
    blanks
    let name := String.ofList name
    if lang.hasField name then return name else failAt .unknownField start

/-- At most so many fields may be excluded; further ones are ignored. -/
def absentFieldLimit : Nat := 8

/-- Reads what follows a pattern. -/
def suffixes : Nat → List Suffix → Reading (List Suffix)
  | 0, seen => return seen.reverse
  | fuel + 1, seen => do
    match ← peek with
    | some '+' =>
      skip
      blanks
      countStep
      suffixes fuel (.oneOrMore :: seen)
    | some '*' =>
      skip
      blanks
      countStep
      suffixes fuel (.zeroOrMore :: seen)
    | some '?' =>
      skip
      blanks
      suffixes fuel (.optional :: seen)
    | some '@' =>
      skip
      match ← name? with
      | none => fail
      | some name =>
        blanks
        let i ← captureIndex (String.ofList name)
        suffixes fuel (.capture i :: seen)
    | _ => return seen.reverse

/-- Reads blanks and what follows a pattern. -/
def finish : Reading (List Suffix) := do
  blanks
  suffixes (← bound) []

/-- Reads an anchor, if one is there. -/
def anchor : Reading Bool := do
  if (← peek) == some '.' then
    skip
    blanks
    return true
  else return false

/-- Marks a pattern that follows an anchor. -/
def anchorIf (anchored : Bool) (p : Pattern) : Pattern := if anchored then .anchored p else p

/-- Whether a pattern is only a condition. -/
def isCondition : Pattern → Bool
  | .condition _ => true
  | .anchored p => isCondition p
  | _ => false

mutual

/-- Reads a pattern.  There is none if the cursor is at the end of what encloses it. -/
def pattern : Nat → Reading (Option Pattern)
  | 0 => fail
  | fuel + 1 => do
    let position ← offset
    match ← peek with
    | some ')' | some ']' => return none
    | some '[' =>
      skip
      blanks
      let branches ← branchList fuel []
      return some (.choice position branches (← finish))
    | some '(' =>
      skip
      blanks
      match ← peek with
      | some '(' | some '"' | some '[' =>
        let members ← memberList fuel []
        return some (.group position members (← finish))
      | some '.' | some '#' =>
        skip
        clause
        return some (.condition position)
      | _ =>
        let steps := (← get).steps
        let test ← nodeTest lang
        countStep
        blanks
        let (absent, children, closed) ← childList fuel steps false [] []
        return some (.node position test absent children closed (← finish))
    | some '_' =>
      skip
      countStep
      return some (.node position ⟨none, false, false⟩ [] [] false (← finish))
    | some '"' =>
      let text ← string
      let s ← kind lang text false (position + 1)
      countStep
      return some (.node position ⟨some s, false, false⟩ [] [] false (← finish))
    | _ =>
      match ← name? with
      | none => fail
      | some name =>
        blanks
        if (← peek) != some ':' then failAt .malformed position
        skip
        blanks
        match ← pattern fuel with
        | none => fail
        | some inner =>
          let name := String.ofList name
          if lang.hasField name then
            let _ ← finish
            return some (.field position name inner)
          else failAt .unknownField position

/-- Reads the branches of a choice up to its closing bracket. -/
def branchList : Nat → List Pattern → Reading (List Pattern)
  | 0, _ => fail
  | fuel + 1, seen => do
    match ← pattern fuel with
    | some p =>
      countStep
      branchList fuel (p :: seen)
    | none =>
      if (← peek) == some ']' && !seen.isEmpty then
        skip
        modify fun r => { r with steps := r.steps - 1 }
        return seen.reverse
      else fail

/-- Reads the members of a group up to its closing parenthesis. -/
def memberList : Nat → List Pattern → Reading (List Pattern)
  | 0, _ => fail
  | fuel + 1, seen => do
    let anchored ← anchor
    match ← pattern fuel with
    | some p => memberList fuel (anchorIf anchored p :: seen)
    | none =>
      if (← peek) == some ')' then
        skip
        return seen.reverse
      else fail

/-- Reads the excluded fields and the children of a node up to its closing parenthesis; `steps` is
the number of steps before the node.  An anchor at the end needs a child before it. -/
def childList : Nat → Nat → Bool → List String → List Pattern →
    Reading (List String × List Pattern × Bool)
  | 0, _, _, _, _ => fail
  | fuel + 1, steps, hasChild, absent, seen => do
    if (← peek) == some '!' then
      skip
      let name ← absentField lang
      let absent := if absent.length < absentFieldLimit then absent ++ [name] else absent
      childList fuel steps hasChild absent seen
    else
      let anchored ← anchor
      match ← pattern fuel with
      | some p =>
        let counts := !isCondition p || 0 < steps || hasChild
        childList fuel steps counts absent (anchorIf anchored p :: seen)
      | none =>
        if (← peek) != some ')' || (anchored && !hasChild) then fail
        skip
        return (absent, seen.reverse, anchored)

end

/-- A pattern of a query with its position and its conditions. -/
structure Entry where
  position : Nat
  pattern : Pattern
  clauses : List Clause
deriving Repr

/-- Reads patterns up to the end of the text. -/
def entries : Nat → List Entry → Reading (List Entry)
  | 0, _ => fail
  | fuel + 1, seen => do
    if (← get).rest.isEmpty then return seen.reverse
    let position ← offset
    modify fun r => { r with clauses := [] }
    match ← pattern lang (← bound) with
    | none => fail
    | some p =>
      countStep
      let clauses := (← get).clauses.reverse
      entries fuel (⟨position, p, clauses⟩ :: seen)

end Reading

/-- Reads the text of a query: its patterns and the names of its captures. -/
def read (lang : Language) (text : List Char) :
    Except QueryError (List Reading.Entry × List String) :=
  let reading : Reading (List Reading.Entry) := do
    Reading.blanks
    Reading.entries lang (text.length + 1) []
  match reading ⟨text, 0, [], [], 0⟩ with
  | .ok (entries, r) => .ok (entries, r.captures)
  | .error (cause, offset) => .error (QueryError.locate text cause offset)

end SyntaxKit.Query
