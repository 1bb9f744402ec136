import SyntaxKit.Regex.Expression

/-!
# Reading regular expressions

The written form of regular expressions: literal characters, `.`, classes in brackets with ranges,
nesting and the operators `&&`, `--` and `~~`, escapes, groups with names and flags, assertions, and
repetition.  `Expression.parse?` gives the expression that a text stands for, or nothing if the text
breaks the rules.
-/

namespace SyntaxKit.Regex

/-- What changes the meaning of the characters that follow. -/
structure Flags where
  caseless : Bool
  multiLine : Bool
  dotAll : Bool
  crlf : Bool
  ascii : Bool
  verbose : Bool
deriving Repr

/-- The flags at the start of an expression. -/
def Flags.initial : Flags := ⟨false, false, false, false, false, false⟩

/-- How far a text has been read: the rest, the flags in force, and the group names so far. -/
structure Cursor where
  rest : List Char
  flags : Flags
  names : List (List Char)

/-- A computation that reads; it fails without giving a reason. -/
abbrev Reading (α : Type) := StateT Cursor Option α

/-- Groups and classes may be nested so deep. -/
def nestingLimit : Nat := 250

/-- The largest number in a repetition. -/
def countLimit : Nat := 4294967295

namespace CharSet

/-- The decimal digits. -/
def digits (ascii : Bool) : CharSet := ranges (if ascii then [(48, 57)] else Text.digitRanges)

/-- The blank characters. -/
def blanks (ascii : Bool) : CharSet :=
  ranges (if ascii then [(9, 13), (32, 32)] else Text.blankRanges)

/-- The characters of words. -/
def wordCharacters (ascii : Bool) : CharSet :=
  ranges (if ascii then [(48, 57), (65, 90), (95, 95), (97, 122)]
    else Text.alphabeticRanges ++ Text.digitRanges ++ Text.joinerRanges)

/-- The characters that are in the first set and not in the second. -/
def difference (a b : CharSet) : CharSet := intersection a (complement b)

/-- The characters that are in exactly one of two sets. -/
def symmetricDifference (a b : CharSet) : CharSet := union (difference a b) (difference b a)

/-- The sets with a name between `[:` and `:]`. -/
def named? (name : List Char) : Option CharSet :=
  let table : List (String × List (Nat × Nat)) :=
    [("alnum", [(48, 57), (65, 90), (97, 122)]), ("alpha", [(65, 90), (97, 122)]),
      ("ascii", [(0, 127)]), ("blank", [(9, 9), (32, 32)]), ("cntrl", [(0, 31), (127, 127)]),
      ("digit", [(48, 57)]), ("graph", [(33, 126)]), ("lower", [(97, 122)]),
      ("print", [(32, 126)]), ("punct", [(33, 47), (58, 64), (91, 96), (123, 126)]),
      ("space", [(9, 13), (32, 32)]), ("upper", [(65, 90)]),
      ("word", [(48, 57), (65, 90), (95, 95), (97, 122)]),
      ("xdigit", [(48, 57), (65, 70), (97, 102)])]
  (table.find? (·.1.toList == name)).map fun (_, rs) => ranges rs

/-- The set with the cases of its characters taken together if the flags say so. -/
def withFlags (s : CharSet) (f : Flags) : CharSet := if f.caseless then caseless s else s

end CharSet

namespace Reading

/-- The character under the cursor. -/
def peek : Reading (Option Char) := return (← get).rest.head?

/-- Moves over some characters. -/
def skip (n : Nat) : Reading Unit := modify fun r => { r with rest := r.rest.drop n }

/-- Moves over a text if it is next. -/
def accept (text : String) : Reading Bool := modifyGet fun r =>
  if text.toList.isPrefixOf r.rest then
    (true, { r with rest := r.rest.drop text.length })
  else (false, r)

/-- A bound for loops that consume the text. -/
def bound : Reading Nat := return (← get).rest.length + 1

/-- The characters that may be ignored with the flag for it: blanks, and comments up to the end of
the line. -/
def dropIgnored : Nat → List Char → List Char
  | 0, t => t
  | fuel + 1, t =>
    let t := t.dropWhile Text.isBlank
    match t with
    | '#' :: rest => dropIgnored fuel (rest.dropWhile (· != '\n'))
    | _ => t

/-- Moves over what is to be ignored. -/
def ignored : Reading Unit := modify fun r =>
  if r.flags.verbose then { r with rest := dropIgnored (r.rest.length + 1) r.rest } else r

/-- Reads decimal digits. -/
def number : Reading Nat := do
  ignored
  let digits := (← get).rest.takeWhile Char.isDigit
  if digits.isEmpty then failure
  skip digits.length
  ignored
  let n := digits.foldl (fun n c => 10 * n + (c.toNat - 48)) 0
  if countLimit < n then failure
  return n

/-- The value of a hexadecimal digit. -/
def hexValue? (c : Char) : Option Nat :=
  if c.isDigit then some (c.toNat - 48)
  else if 'a' ≤ c && c ≤ 'f' then some (c.toNat - 87)
  else if 'A' ≤ c && c ≤ 'F' then some (c.toNat - 55)
  else none

/-- The character with a hexadecimal code. -/
def charOfHex (digits : List Char) : Reading Char := do
  if digits.isEmpty then failure
  let some values := digits.mapM hexValue? | failure
  let n := values.foldl (fun n d => 16 * n + d) 0
  if h : n.isValidChar then return Char.ofNatAux n h else failure

/-- Reads a hexadecimal code: in braces, or with a fixed number of digits. -/
def hexCode (width : Nat) : Reading Char := do
  ignored
  if ← accept "\x7b" then
    let digits := (← get).rest.takeWhile (· != '}')
    skip digits.length
    if ← accept "\x7d" then charOfHex digits else failure
  else
    let digits := (← get).rest.take width
    if digits.length < width then failure
    skip width
    charOfHex digits

/-- What an escape stands for. -/
inductive Escape where
  | literal (c : Char)
  | set (s : CharSet)
  | assertion (a : Assertion)

/-- Whether a backslash makes a character stand for itself. -/
def isEscapable (c : Char) : Bool :=
  c.toNat < 128 && !c.isAlphanum && c != '<' && c != '>'

/-- Reads an escape behind its backslash. -/
def escape : Reading Escape := do
  let some c ← peek | failure
  let ascii := (← get).flags.ascii
  skip 1
  match c with
  | 'd' => return .set (.digits ascii)
  | 'D' => return .set (.complement (.digits ascii))
  | 's' => return .set (.blanks ascii)
  | 'S' => return .set (.complement (.blanks ascii))
  | 'w' => return .set (.wordCharacters ascii)
  | 'W' => return .set (.complement (.wordCharacters ascii))
  | 'a' => return .literal '\x07'
  | 'f' => return .literal '\x0c'
  | 't' => return .literal '\t'
  | 'n' => return .literal '\n'
  | 'r' => return .literal '\r'
  | 'v' => return .literal '\x0b'
  | 'x' => return .literal (← hexCode 2)
  | 'u' => return .literal (← hexCode 4)
  | 'U' => return .literal (← hexCode 8)
  | 'A' => return .assertion .textStart
  | 'z' => return .assertion .textEnd
  | 'B' => return .assertion (.noWordBoundary ascii)
  | '<' => return .assertion (.wordStart ascii)
  | '>' => return .assertion (.wordEnd ascii)
  | 'b' =>
    if ← accept "\x7bstart\x7d" then return .assertion (.wordStart ascii)
    if ← accept "\x7bend\x7d" then return .assertion (.wordEnd ascii)
    if ← accept "\x7bstart-half\x7d" then return .assertion (.wordStartHalf ascii)
    if ← accept "\x7bend-half\x7d" then return .assertion (.wordEndHalf ascii)
    return .assertion (.wordBoundary ascii)
  | _ => if isEscapable c then return .literal c else failure

/-! ## Classes -/

/-- Reads a set with a name, if one is next. -/
def namedSet? : Reading (Option CharSet) := do
  let r ← get
  if !("[:".toList.isPrefixOf r.rest) then return none
  let behind := r.rest.drop 2
  let (negated, behind) := match behind with
    | '^' :: t => (true, t)
    | t => (false, t)
  let name := behind.takeWhile Char.isAlpha
  let behind := behind.drop name.length
  match CharSet.named? name with
  | some s =>
    if ":]".toList.isPrefixOf behind then
      set { r with rest := behind.drop 2 }
      return some (if negated then .complement s else s)
    else return none
  | none => return none

/-- Reads one end of a range in a class, or a set. -/
def classItem : Reading (Char ⊕ CharSet) := do
  let some c ← peek | failure
  if c = '\\' then
    skip 1
    match ← escape with
    | .literal c => return .inl c
    | .set s => return .inr s
    | .assertion _ => failure
  else
    skip 1
    return .inl c

/-- Reads a character, a range or a set in a class. -/
def classRange : Reading CharSet := do
  let first ← classItem
  ignored
  let rest := (← get).rest
  let isRange := rest.head? == some '-' && rest.drop 1 != []
    && (rest.drop 1).head? != some ']' && (rest.drop 1).head? != some '-'
  match first with
  | .inr s => if isRange then failure else return s
  | .inl a =>
    if !isRange then return .single a
    skip 1
    ignored
    match ← classItem with
    | .inr _ => failure
    | .inl b => if b < a then failure else return .ranges [(a.toNat, b.toNat)]

/-- An operator between sets in a class. -/
inductive SetOperator where
  | intersection
  | difference
  | symmetricDifference

/-- Applies an operator; without one the second set stands alone. -/
def SetOperator.apply : Option SetOperator → CharSet → CharSet → CharSet
  | none, _, b => b
  | some .intersection, a, b => .intersection a b
  | some .difference, a, b => .difference a b
  | some .symmetricDifference, a, b => .symmetricDifference a b

/-- Reads an operator between sets, if one is next. -/
def setOperator? : Reading (Option SetOperator) := do
  if ← accept "&&" then return some .intersection
  if ← accept "--" then return some .difference
  if ← accept "~~" then return some .symmetricDifference
  return none

/-- Reads the hyphens that stand for themselves at the start of a class. -/
def leadingHyphens : Nat → CharSet → Reading CharSet
  | 0, s => return s
  | fuel + 1, s => do
    if (← peek) == some '-' then
      skip 1
      ignored
      leadingHyphens fuel (.union s (.single '-'))
    else return s

mutual

/-- Reads a class behind its bracket. -/
def charClass : Nat → Nat → Reading CharSet
  | 0, _ => failure
  | fuel + 1, depth => do
    if nestingLimit < depth then failure
    ignored
    let negated ← accept "^"
    ignored
    let start ← leadingHyphens (← bound) .none
    let start ← match start with
      | .ranges [] =>
        if ← accept "]" then
          ignored
          pure (CharSet.single ']')
        else pure start
      | _ => pure start
    let s ← classBody fuel depth none .none start
    return if negated then .complement s else s

/-- Reads a class up to its closing bracket; `left` is what stands before the last operator, and
`right` what has been read behind it. -/
def classBody : Nat → Nat → Option SetOperator → CharSet → CharSet → Reading CharSet
  | 0, _, _, _, _ => failure
  | fuel + 1, depth, op, left, right => do
    ignored
    match ← peek with
    | none => failure
    | some ']' =>
      skip 1
      return SetOperator.apply op left ((right).withFlags (← get).flags)
    | some '[' =>
      match ← namedSet? with
      | some s => classBody fuel depth op left (.union right s)
      | none =>
        skip 1
        let s ← charClass fuel (depth + 1)
        classBody fuel depth op left (.union right s)
    | some _ =>
      match ← setOperator? with
      | some next =>
        let left := SetOperator.apply op left (right.withFlags (← get).flags)
        classBody fuel depth (some next) left .none
      | none =>
        let s ← classRange
        classBody fuel depth op left (.union right s)

end

/-! ## Expressions -/

/-- The expression for one character. -/
def literal (c : Char) : Reading Expression :=
  return .char ((CharSet.single c).withFlags (← get).flags)

/-- The expression for any character. -/
def anyChar : Reading Expression := do
  let f := (← get).flags
  if f.dotAll then return .char (.complement .none)
  if f.crlf then return .char (.complement (.ranges [(10, 10), (13, 13)]))
  return .char (.complement (.single '\n'))

/-- Reads the name of a group up to its `>`. -/
def groupName : Reading Unit := do
  let r ← get
  let name := r.rest.takeWhile (· != '>')
  let valid := fun i (c : Char) =>
    c == '_' || Text.isAlphanumeric c && (0 < i || !Text.isDigit c)
      || (0 < i && (c == '.' || c == '[' || c == ']'))
  if name.isEmpty || r.rest.length ≤ name.length || r.names.contains name then failure
  if !(name.zipIdx.all fun (c, i) => valid i c) then failure
  set { r with rest := r.rest.drop (name.length + 1), names := name :: r.names }

/-- Sets or clears one flag. -/
def Flags.update (f : Flags) (c : Char) (on : Bool) : Option Flags :=
  match c with
  | 'i' => some { f with caseless := on }
  | 'm' => some { f with multiLine := on }
  | 's' => some { f with dotAll := on }
  | 'R' => some { f with crlf := on }
  | 'u' => some { f with ascii := !on }
  | 'x' => some { f with verbose := on }
  | 'U' => some f
  | _ => none

/-- Reads flags up to a colon or a parenthesis; no flag may be given twice. -/
def flags : Nat → Bool → List Char → Flags → Reading Flags
  | 0, _, _, _ => failure
  | fuel + 1, on, seen, f => do
    let some c ← peek | failure
    if c = ':' || c = ')' then
      if seen.head? == some '-' then failure else return f
    else
      skip 1
      if seen.contains c then failure
      if c = '-' then flags fuel false (c :: seen) f
      else
        match Flags.update f c on with
        | some f => flags fuel on (c :: seen) f
        | none => failure

/-- Reads the numbers of a repetition behind the opening brace. -/
def counts : Reading (Nat × Option Nat) := do
  let least ← number
  if ← accept "," then
    ignored
    if ← accept "\x7d" then return (least, none)
    let most ← number
    if (← accept "\x7d") && least ≤ most then return (least, some most) else failure
  else if ← accept "\x7d" then return (least, some least)
  else failure

/-- Reads the repetitions behind an expression. -/
def repetitions : Nat → Expression → Reading Expression
  | 0, e => return e
  | fuel + 1, e => do
    ignored
    let limits ← (do
      if ← accept "*" then return some (0, none)
      if ← accept "+" then return some (1, none)
      if ← accept "?" then return some (0, some 1)
      if ← accept "\x7b" then return some (← counts)
      return none : Reading (Option (Nat × Option Nat)))
    match limits with
    | none => return e
    | some (least, most) =>
      let _ ← accept "?"
      repetitions fuel (.repetition e least most)

/-- What stands inside a group: an expression, or flags for what follows. -/
inductive GroupKind where
  | expression
  | flags (f : Flags)

/-- Reads what follows the opening parenthesis of a group. -/
def groupKind : Reading GroupKind := do
  if (← accept "?P<") || (← accept "?<") then
    groupName
    return .expression
  else if ← accept "?" then
    let before := (← get).flags
    let some c ← peek | failure
    if c = ')' then failure
    let f ← flags (← bound) true [] before
    if ← accept ":" then
      modify fun r => { r with flags := f }
      return .expression
    else
      skip 1
      return .flags f
  else return .expression

mutual

/-- Reads the alternatives up to the end of a group or of the text. -/
def alternatives : Nat → Nat → Reading Expression
  | 0, _ => failure
  | fuel + 1, depth => do
    let first ← items fuel depth .empty
    if ← accept "|" then return .choice first (← alternatives fuel depth)
    return first

/-- Reads what stands between two bars. -/
def items : Nat → Nat → Expression → Reading Expression
  | 0, _, _ => failure
  | fuel + 1, depth, before => do
    ignored
    match ← peek with
    | none | some '|' | some ')' => return before
    | some '(' =>
      if nestingLimit < depth then failure
      skip 1
      let outer := (← get).flags
      match ← groupKind with
      | .flags f =>
        modify fun r => { r with flags := f }
        ignored
        let next ← peek
        if next == some '*' || next == some '+' || next == some '?' || next == some '{' then
          failure
        items fuel depth before
      | .expression =>
        let e ← alternatives fuel (depth + 1)
        if !(← accept ")") then failure
        modify fun r => { r with flags := outer }
        items fuel depth (.sequence before (← repetitions (← bound) e))
    | some c =>
      let e ← item fuel c
      items fuel depth (.sequence before (← repetitions (← bound) e))

/-- Reads one character, class or assertion. -/
def item : Nat → Char → Reading Expression
  | 0, _ => failure
  | fuel + 1, c => do
    skip 1
    let f := (← get).flags
    match c with
    | '*' | '+' | '?' | '{' => failure
    | '.' => anyChar
    | '^' => return .assertion (if f.multiLine then .lineStart f.crlf else .textStart)
    | '$' => return .assertion (if f.multiLine then .lineEnd f.crlf else .textEnd)
    | '[' => return .char (← charClass fuel 0)
    | '\\' =>
      match ← escape with
      | .literal c => literal c
      | .set s => return .char (s.withFlags f)
      | .assertion a => return .assertion a
    | c => literal c

end

/-- Reads an expression up to the end of the text. -/
def whole : Reading Expression := do
  let e ← alternatives (2 * (← bound) + 2) 0
  if (← peek).isSome then failure
  return e

end Reading

/-- The expression that a text stands for, if it is one. -/
def Expression.parse? (text : List Char) : Option Expression :=
  (Reading.whole.run ⟨text, Flags.initial, []⟩).map (·.1)

end SyntaxKit.Regex
