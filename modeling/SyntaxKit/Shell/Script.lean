/-!
# Shell scripts

The build tool may be given as a shell script.  A script is built from simple commands by running
one after another, by running one only if another succeeded or failed, and by choosing between
scripts.  There are no loops and no pipelines.

A word is a list of fragments: text that stands for itself, and parameters that stand for their
values.
-/

namespace SyntaxKit

namespace Shell

/-- A part of a word.  Text in quotes is no pattern. -/
inductive Fragment where
  | text (chars : List Char) (quoted : Bool)
  | parameter (name : List Char) (quoted : Bool)
deriving DecidableEq, Repr

/-- A word of a script. -/
abbrev Word := List Fragment

/-- Where a stream of a command goes: `1` is its output and `2` are its complaints. -/
inductive Redirection where
  | toFile (stream : Nat) (file : Word) (append : Bool)
  | toStream (stream : Nat) (other : Nat)
deriving DecidableEq, Repr

/-- A script.  The line of a simple command or a redirection is named in complaints. -/
inductive Script where
  | empty
  | simple (line : Nat) (assignments : List (List Char × Word)) (words : List Word)
      (redirections : List Redirection)
  | redirected (line : Nat) (body : Script) (redirections : List Redirection)
  | sequence (first second : Script)
  | both (first second : Script)
  | either (first second : Script)
  | negated (body : Script)
  | conditional (test yes no : Script)
  | choice (subject : Word) (patterns : List Word) (body otherwise : Script)
deriving Repr

end Shell

end SyntaxKit
