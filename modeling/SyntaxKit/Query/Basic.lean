import SyntaxKit.Query.Condition
import SyntaxKit.Query.Feasibility

/-!
# Queries

A query is compiled from its text for a language: the text is read, its patterns are laid out as a
program, patterns that no tree can fit are refused, and the conditions are resolved.  The first of
these that fails decides which error is reported.
-/

namespace SyntaxKit

/-- A compiled query: the names of its captures, its program, and for each pattern the conditions
on the captured text. -/
structure Query where
  captureNames : Array String
  program : Query.Program
  conditions : Array (List Query.Condition)
deriving Inhabited

namespace Query

/-- The error for a condition of a pattern, reported at the row in which the pattern begins. -/
def conditionError (text : List Char) (position : Nat) (detail : String) : QueryError :=
  let row := (((Text.take? text position).getD []).filter (· == '\n')).length
  ⟨.condition, row, 0, 0, detail⟩

/-- Resolves the conditions of a pattern. -/
def resolveEntry (text : List Char) (captures : List String) (e : Reading.Entry) :
    Except QueryError (List Condition) :=
  (e.clauses.foldlM (fun found c => do
    match c.resolve captures with
    | .ok (some condition) => .ok (found ++ [condition])
    | .ok none => .ok found
    | .error detail => .error (conditionError text e.position detail)) [])

/-- Compiles a query for a language whose parse automaton is known from the side of its nodes. -/
def compileWith (lang : Language) (d : Derivation) (text : List Char) :
    Except QueryError Query := do
  let (entries, captures) ← read lang text
  let program := Program.ofPatterns (entries.map (·.pattern))
  let conditioned := entries.map fun e => e.clauses.flatMap (·.mentioned)
  match program.analyse lang d conditioned with
  | .error position => .error (QueryError.locate text .impossible position)
  | .ok program =>
    let conditions ← entries.mapM (resolveEntry text captures)
    .ok ⟨captures.toArray, program, conditions.toArray⟩

/-- Compiles a query for a language. -/
def compile (lang : Language) (text : List Char) : Except QueryError Query :=
  compileWith lang (Derivation.ofLanguage lang) text

end Query

end SyntaxKit
