import SyntaxKit.Deployment.Error
import SyntaxKit.Files.System
import SyntaxKit.Shell.Script
import SyntaxKit.Text.Utf8

/-!
# Running scripts

A script is run in a directory of a file system with some arguments.  It can write files, write
complaints, and end with a status or by a signal.  The commands are those that a shell knows by
itself; any other command is not found.

Since scripts have no loops, running one is a recursion over its parts.
-/

namespace SyntaxKit

namespace Shell

/-! ## The state of a run -/

/-- Where a stream goes. -/
inductive Sink where
  | output
  | complaints
  | file (place : Place)
  | nowhere
deriving DecidableEq, Repr

/-- The state of a run.  `exit` is there once the run has ended. -/
structure State where
  files : FileSystem
  directory : Place
  name : List Char
  arguments : List (List Char)
  assigned : List (List Char × List Char) := []
  complaints : List UInt8 := []
  first : Sink := .output
  second : Sink := .complaints
  status : Nat := 0
  exit : Option Deployment.Exit := none

namespace State

/-- The state with a status. -/
def withStatus (s : State) (status : Nat) : State := { s with status }

/-- Writes bytes to a sink. -/
def writeTo (s : State) (sink : Sink) (bytes : List UInt8) : State :=
  match sink with
  | .output | .nowhere => s
  | .complaints => { s with complaints := s.complaints ++ bytes }
  | .file place =>
    match s.files.entry? place with
    | some (.file old mode) =>
      { s with files := s.files.insert place (.file (old ++ bytes) mode) }
    | _ => s

/-- Writes bytes to the output. -/
def print (s : State) (bytes : List UInt8) : State := s.writeTo s.first bytes

/-- Complains about a line of the script, and gives a status. -/
def complain (s : State) (line : Nat) (message : List Char) (status : Nat) : State :=
  let text := s.name ++ ": ".toList ++ (toString line).toList ++ ": ".toList ++ message ++ ['\n']
  (s.writeTo s.second (Utf8.encode text)).withStatus status

end State

/-! ## Words -/

/-- The number that a shell shows for its own process. -/
def processNumber : List Char := ['1']

/-- Words with spaces between them. -/
def spaced (words : List (List Char)) : List Char := [' '].intercalate words

/-- The value of a parameter; one that is not set is empty. -/
def valueOf (s : State) (name : List Char) : List Char :=
  match name with
  | ['#'] => (toString s.arguments.length).toList
  | ['?'] => (toString s.status).toList
  | ['$'] => processNumber
  | ['@'] | ['*'] => spaced s.arguments
  | ['0'] => s.name
  | ['P', 'W', 'D'] => s.directory.path.shown
  | [c] =>
    if c.isDigit then s.arguments.getD (c.toNat - '1'.toNat) []
    else (s.assigned.lookup name).getD []
  | _ => (s.assigned.lookup name).getD []

/-- The text of a word. -/
def expand (s : State) (w : Word) : List Char :=
  w.flatMap fun
    | .text chars _ => chars
    | .parameter name _ => valueOf s name

/-- Whether a word stands for something even if its text is empty. -/
def isQuoted (w : Word) : Bool :=
  w.any fun
    | .text _ quoted => quoted
    | .parameter _ quoted => quoted

/-- The texts of some words, without words of which nothing is left. -/
def expandAll (s : State) (ws : List Word) : List (List Char) :=
  ws.filterMap fun w =>
    let text := expand s w
    if text = [] && !isQuoted w then none else some text

/-- A pattern: characters that have to be there, and the signs for any one and for any number of
characters. -/
inductive PatternItem where
  | char (c : Char)
  | any
  | many
deriving DecidableEq, Repr

/-- The pattern that a word is; in quotes nothing is a sign. -/
def patternOf (s : State) (w : Word) : List PatternItem :=
  w.flatMap fun
    | .text chars true => chars.map .char
    | .text chars false =>
      chars.map fun c => if c = '*' then .many else if c = '?' then .any else .char c
    | .parameter name _ => (valueOf s name).map .char

/-- Whether a text fits a pattern. -/
def fits : List PatternItem → List Char → Bool
  | [], text => text.isEmpty
  | .char c :: ps, d :: text => c == d && fits ps text
  | .any :: ps, _ :: text => fits ps text
  | .many :: ps, text => (List.range (text.length + 1)).any fun n => fits ps (text.drop n)
  | _ :: _, [] => false

/-! ## Escapes -/

/-- The character that a letter behind a backslash stands for. -/
def escape? : Char → Option Char
  | 'n' => some '\n'
  | 't' => some '\t'
  | 'r' => some '\r'
  | 'a' => some '\x07'
  | 'b' => some '\x08'
  | 'f' => some '\x0c'
  | 'v' => some '\x0b'
  | '\\' => some '\\'
  | _ => none

/-- Whether a character is an octal digit. -/
def isOctal (c : Char) : Bool := '0' ≤ c && c ≤ '7'

/-- The byte of octal digits. -/
def octal (digits : List Char) : UInt8 :=
  UInt8.ofNat (digits.foldl (fun n c => 8 * n + (c.toNat - '0'.toNat)) 0)

/-- The bytes of a text with escapes.  `fuel` is the length of the text. -/
def unescape : Nat → List Char → List UInt8
  | 0, _ | _, [] => []
  | fuel + 1, '\\' :: c :: t =>
    if isOctal c then
      let digits := ((c :: t).take 3).takeWhile isOctal
      octal digits :: unescape fuel ((c :: t).drop digits.length)
    else
      match escape? c with
      | some e => String.utf8EncodeChar e ++ unescape fuel t
      | none => String.utf8EncodeChar '\\' ++ String.utf8EncodeChar c ++ unescape fuel t
  | fuel + 1, c :: t => String.utf8EncodeChar c ++ unescape fuel t

/-- The bytes of a format and its arguments: `%s` and `%d` take the next argument, `%%` is a percent
sign. -/
def format : List Char → List (List Char) → List UInt8
  | '%' :: '%' :: t, args => Utf8.encode ['%'] ++ format t args
  | '%' :: _ :: t, args => Utf8.encode (args.headD []) ++ format t args.tail
  | c :: t, args => String.utf8EncodeChar c ++ format t args
  | [], _ => []

/-- A format in which the escapes are replaced; their bytes are those of single characters. -/
def formatText (text : List Char) : List UInt8 := unescape text.length text

/-! ## Commands -/

/-- Whether a condition about one word holds. -/
def holdsOne (s : State) (operator : String) (word : List Char) : Option Bool :=
  match operator with
  | "-d" => some (s.files.isDirectory s.directory (.ofText word))
  | "-f" => some (s.files.isFile s.directory (.ofText word))
  | "-e" | "-r" | "-w" | "-x" => some (s.files.pathExists s.directory (.ofText word))
  | "-s" =>
    match s.files.read s.directory (.ofText word) with
    | .ok bytes => some (!bytes.isEmpty)
    | .error _ => some false
  | "-h" | "-L" =>
    match s.files.lookup s.directory (.ofText word) false with
    | .ok (_, .link _) => some true
    | _ => some false
  | "-z" => some word.isEmpty
  | "-n" => some !word.isEmpty
  | _ => none

/-- Whether a condition about two words holds. -/
def holdsTwo (operator : String) (a b : List Char) : Option Bool :=
  let number (text : List Char) := ((String.ofList text).toInt?).getD 0
  match operator with
  | "=" | "==" => some (a == b)
  | "!=" => some (a != b)
  | "-eq" => some (number a == number b)
  | "-ne" => some (number a != number b)
  | "-lt" => some (number a < number b)
  | "-le" => some (number a ≤ number b)
  | "-gt" => some (number b < number a)
  | "-ge" => some (number b ≤ number a)
  | _ => none

/-- Whether a condition holds. -/
def holds (s : State) : List (List Char) → Bool
  | [] => false
  | ['!'] :: rest => !holds s rest
  | [word] => !word.isEmpty
  | [operator, word] => (holdsOne s (String.ofList operator) word).getD false
  | [a, operator, b] => (holdsTwo (String.ofList operator) a b).getD false
  | _ => false

/-- The signal that a word names or numbers. -/
def signal? (word : List Char) : Option Nat :=
  let word := word.dropWhile (· == '-')
  match (String.ofList word).toNat? with
  | some n => some n
  | none =>
    (List.range 16).find? fun n =>
      match Deployment.signalName? n with
      | some name => name.toList == word || name.toList.drop 3 == word
      | none => false

/-- The status of a yes or no. -/
def statusOf (b : Bool) : Nat := if b then 0 else 1

/-- The status of a command that is not found. -/
def notFoundStatus : Nat := 127

/-- Runs a command that the shell knows. -/
def runBuiltin (s : State) (line : Nat) (command : String) (args : List (List Char)) : State :=
  match command with
  | ":" | "true" | "export" => s.withStatus 0
  | "false" => s.withStatus 1
  | "exit" =>
    let status :=
      match args with
      | [] => s.status
      | a :: _ => ((String.ofList a).toNat?).getD 2 % 256
    { s with exit := some (.status status) }
  | "kill" =>
    let number :=
      match args with
      | ['-', 's'] :: name :: _ => signal? name
      | ('-' :: name) :: _ => signal? name
      | _ => signal? "TERM".toList
    match number with
    | some 0 => s.withStatus 0
    | some n => { s with exit := some (.signal n) }
    | none => s.withStatus 2
  | "echo" =>
    let (newline, words) :=
      match args with
      | ['-', 'n'] :: words => ([], words)
      | words => (['\n'], words)
    let text := spaced words
    (s.print (unescape text.length text ++ Utf8.encode newline)).withStatus 0
  | "printf" =>
    match args with
    | [] => s.withStatus 2
    | text :: args =>
      -- with no sign for an argument the escapes give bytes, which need not be text
      let bytes :=
        if text.contains '%' then format (Utf8.decode (formatText text)) args
        else formatText text
      (s.print bytes).withStatus 0
  | "pwd" => (s.print (Utf8.encode (s.directory.path.shown ++ ['\n']))).withStatus 0
  | "cd" =>
    let target := args.headD []
    match s.files.lookup s.directory (.ofText target) true with
    | .ok (place, .directory) => { s with directory := place, status := 0 }
    | _ => s.complain line ("cd: can't cd to ".toList ++ target) 2
  | "test" => s.withStatus (statusOf (holds s args))
  | "[" => s.withStatus (statusOf (holds s args.dropLast))
  | _ => s.complain line (command.toList ++ ": not found".toList) notFoundStatus

/-! ## Redirections -/

/-- The file that takes whatever is written to it and stays empty. -/
def nullFile : List Char := "/dev/null".toList

/-- Why a file cannot be made for output. -/
def openComplaint : FileError → List Char
  | .notFound => "Directory nonexistent".toList
  | .isDirectory => "Is a directory".toList
  | .notDirectory => "Not a directory".toList
  | _ => "Permission denied".toList

/-- The state in which a stream goes to a sink. -/
def State.direct (s : State) (stream : Nat) (sink : Sink) : State :=
  if stream = 2 then { s with second := sink } else { s with first := sink }

/-- Opens the files of some redirections; fails with a complaint at the first that cannot be
opened. -/
def redirect (s : State) (line : Nat) : List Redirection → Bool × State
  | [] => (true, s)
  | .toStream stream other :: rest =>
    redirect (s.direct stream (if other = 2 then s.second else s.first)) line rest
  | .toFile stream word append :: rest =>
    let name := expand s word
    if name = nullFile then redirect (s.direct stream .nowhere) line rest
    else
      let old :=
        match s.files.read s.directory (.ofText name) with
        | .ok bytes => if append then bytes else []
        | .error _ => []
      let (fault, files) := s.files.write s.directory (.ofText name) old
      let opened := { s with files }
      match fault, files.locate s.directory (.ofText name) true with
      | none, .ok place => redirect (opened.direct stream (.file place)) line rest
      | some e, _ | _, .error e =>
        (false, opened.complain line
          ("cannot create ".toList ++ name ++ ": ".toList ++ openComplaint e) 2)

/-- The state after a part of a script, with the streams as they were before it. -/
def State.restore (s before : State) : State :=
  { s with first := before.first, second := before.second }

/-! ## Scripts -/

/-- Runs a script, unless the run has ended. -/
def run (s : State) (script : Script) : State :=
  if s.exit.isSome then s
  else
    match script with
    | .empty => s
    | .simple line assignments words redirections =>
      match redirect s line redirections with
      | (false, t) => t.restore s
      | (true, t) =>
        match expandAll t words with
        | [] =>
          let set := assignments.map fun a => (a.1, expand t a.2)
          { t.restore s with assigned := set.reverse ++ t.assigned, status := 0 }
        | command :: args => (runBuiltin t line (String.ofList command) args).restore s
    | .redirected line body redirections =>
      match redirect s line redirections with
      | (false, t) => t.restore s
      | (true, t) => (run t body).restore s
    | .sequence first second => run (run s first) second
    | .both first second =>
      let t := run s first
      if t.status = 0 then run t second else t
    | .either first second =>
      let t := run s first
      if t.status = 0 then t else run t second
    | .negated body =>
      let t := run s body
      t.withStatus (statusOf (t.status != 0))
    | .conditional test yes no =>
      let t := run s test
      if t.status = 0 then run (t.withStatus 0) yes else run (t.withStatus 0) no
    | .choice subject patterns body otherwise =>
      let text := expand s subject
      if patterns.any fun p => fits (patternOf s p) text then run (s.withStatus 0) body
      else run (s.withStatus 0) otherwise

/-- How a run ended. -/
def State.ending (s : State) : Deployment.Exit := s.exit.getD (.status s.status)

end Shell

end SyntaxKit
