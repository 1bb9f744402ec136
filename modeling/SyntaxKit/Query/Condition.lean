import SyntaxKit.Query.Reader
import SyntaxKit.Regex.Reader

/-!
# Conditions on captured text

A query may ask that captured text equals other text, matches a regular expression, or is one of
several texts.  `Clause.resolve` turns a clause as it is written into a condition and refuses wrong
arguments; clauses with other names are carried by a query but have no effect on its matches.
-/

namespace SyntaxKit.Query

/-- A condition on the texts of captures.  `wanted` is the outcome that the comparison should have;
with `every` all captured nodes have to have it, and otherwise one is enough. -/
inductive Condition where
  | sameText (first second : Nat) (wanted every : Bool)
  | equals (capture : Nat) (text : List Char) (wanted every : Bool)
  | occurs (capture : Nat) (expression : Regex.Expression) (wanted every : Bool)
  | oneOf (capture : Nat) (texts : List (List Char)) (wanted : Bool)
deriving Repr

namespace Condition

/-- Whether the outcomes of a comparison are as wanted.  Where not every one has to be, a wanted one
makes the condition hold, and so does it when there is none. -/
def decideBy (wanted every : Bool) (outcomes : List Bool) : Bool :=
  !every || outcomes.all (· == wanted)

/-- Whether two lists of captured texts agree as wanted.  They are compared in pairs; texts that
are left over make the condition fail. -/
def agree (wanted every : Bool) : List (List Char) → List (List Char) → Bool
  | a :: as, b :: bs =>
    let same := a == b
    if every then same == wanted && agree wanted every as bs
    else same == wanted || agree wanted every as bs
  | as, bs => as.isEmpty && bs.isEmpty

/-- Whether a condition holds; `texts` gives the texts of the nodes that a capture has. -/
def holds (texts : Nat → List (List Char)) : Condition → Bool
  | sameText first second wanted every => agree wanted every (texts first) (texts second)
  | equals capture text wanted every =>
    decideBy wanted every ((texts capture).map (· == text))
  | occurs capture expression wanted every =>
    decideBy wanted every ((texts capture).map expression.occursIn)
  | oneOf capture values wanted =>
    decideBy wanted true ((texts capture).map values.contains)

end Condition

namespace Clause

/-- The name of a capture. -/
def captureName (captures : List String) (i : Nat) : String := captures.getD i ""

/-- Tells that a clause has the wrong number of arguments. -/
def wrongCount (clause expected : String) (count : Nat) : String :=
  "Wrong number of arguments to " ++ clause ++ " predicate. Expected " ++ expected ++ ", got "
    ++ toString count ++ "."

/-- Tells that the first argument of a clause has to be a capture. -/
def literalFirst (clause : String) (text : List Char) : String :=
  "First argument to #" ++ clause ++ " predicate must be a capture name. Got literal \""
    ++ String.ofList text ++ "\"."

/-- The condition of a clause that compares a capture with a text or with another capture. -/
def comparison (name : String) (wanted every : Bool) : List Argument → Except String Condition
  | [.capture i, .capture j] => .ok (.sameText i j wanted every)
  | [.capture i, .literal text] => .ok (.equals i text wanted every)
  | [.literal text, _] => .error (literalFirst name text)
  | args => .error (wrongCount ("#" ++ name) "2" args.length)

/-- The condition of a clause that looks for a regular expression. -/
def occurrence (captures : List String) (name : String) (wanted every : Bool) :
    List Argument → Except String Condition
  | [.literal text, _] => .error (literalFirst name text)
  | [.capture _, .capture j] =>
    .error ("Second argument to #" ++ name ++ " predicate must be a literal. Got capture @"
      ++ captureName captures j ++ ".")
  | [.capture i, .literal text] =>
    match Regex.Expression.parse? text with
    | some e => .ok (.occurs i e wanted every)
    | none => .error ("Invalid regex '" ++ String.ofList text ++ "'")
  | args => .error (wrongCount ("#" ++ name) "2" args.length)

/-- The texts among some arguments, if none is a capture. -/
def literals (captures : List String) (name : String) :
    List Argument → Except String (List (List Char))
  | [] => .ok []
  | .literal text :: rest => (literals captures name rest).map (text :: ·)
  | .capture i :: _ =>
    .error ("Arguments to #" ++ name ++ " predicate must be literals. Got capture @"
      ++ captureName captures i ++ ".")

/-- The condition of a clause that lists texts. -/
def membership (captures : List String) (name : String) (wanted : Bool) :
    List Argument → Except String Condition
  | [] => .error (wrongCount ("#" ++ name) "at least 1" 0)
  | .literal text :: _ => .error (literalFirst name text)
  | .capture i :: rest => (literals captures name rest).map (.oneOf i · wanted)

/-- Checks the arguments of a clause that gives a property to a pattern: a key, perhaps a value, and
perhaps one capture, in any order. -/
def checkProperty (captures : List String) (name : String) (args : List Argument) :
    Except String Unit :=
  if args.isEmpty || 3 < args.length then .error (wrongCount name "1 to 3" args.length)
  else go args false 0
where
  /-- Goes through the arguments; `captured` says that there was a capture, and `texts` counts
  the texts. -/
  go : List Argument → Bool → Nat → Except String Unit
    | [], _, texts =>
      if texts = 0 then
        .error ("Invalid arguments to " ++ name ++ " predicate. Missing key argument")
      else .ok ()
    | .capture i :: rest, captured, texts =>
      if captured then
        .error ("Invalid arguments to " ++ name
          ++ " predicate. Unexpected second capture name @" ++ captureName captures i)
      else go rest true texts
    | .literal text :: rest, captured, texts =>
      if 2 ≤ texts then
        .error ("Invalid arguments to " ++ name ++ " predicate. Unexpected third argument @"
          ++ String.ofList text)
      else go rest captured (texts + 1)

/-- The condition that a clause stands for; none if it has no effect on matches.  An error is the
description of what is wrong with the arguments. -/
def resolve (captures : List String) (c : Clause) : Except String (Option Condition) :=
  match c.name with
  | "eq?" => (comparison c.name true true c.arguments).map some
  | "not-eq?" => (comparison c.name false true c.arguments).map some
  | "any-eq?" => (comparison c.name true false c.arguments).map some
  | "any-not-eq?" => (comparison c.name false false c.arguments).map some
  | "match?" => (occurrence captures c.name true true c.arguments).map some
  | "not-match?" => (occurrence captures c.name false true c.arguments).map some
  | "any-match?" => (occurrence captures c.name true false c.arguments).map some
  | "any-not-match?" => (occurrence captures c.name false false c.arguments).map some
  | "any-of?" => (membership captures c.name true c.arguments).map some
  | "not-any-of?" => (membership captures c.name false c.arguments).map some
  | "set!" | "is?" | "is-not?" =>
    (checkProperty captures c.name c.arguments).map fun _ => none
  | _ => .ok none

/-- The captures that a clause mentions. -/
def mentioned (c : Clause) : List Nat :=
  c.arguments.filterMap fun
    | .capture i => some i
    | .literal _ => none

end Clause

end SyntaxKit.Query
