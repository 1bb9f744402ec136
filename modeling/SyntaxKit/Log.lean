import SyntaxKit.Text.Alphanumeric

/-!
# Log events

What a run does along the way is recorded as events.  Which of them are written is decided by a
filter: a list of directives, each with a level and possibly with the target it is about.  The
directive with the longest target that begins the target of an event decides about it.
-/

namespace SyntaxKit

namespace Log

/-- How important an event is. -/
inductive Level where
  | error
  | warn
  | info
  | debug
  | trace
deriving DecidableEq, Repr

/-- The rank of a level, the most important first. -/
def Level.rank : Level → Nat
  | .error => 1
  | .warn => 2
  | .info => 3
  | .debug => 4
  | .trace => 5

/-- The name of a level, five characters wide. -/
def Level.label : Level → String
  | .error => "ERROR"
  | .warn => " WARN"
  | .info => " INFO"
  | .debug => "DEBUG"
  | .trace => "TRACE"

/-- The colour of a level. -/
def Level.color : Level → String
  | .error => "31"
  | .warn => "33"
  | .info => "32"
  | .debug => "34"
  | .trace => "35"

/-- Something that happened, with the part of the program it happened in. -/
structure Event where
  level : Level
  target : String
  message : String
  fields : List (String × String) := []
deriving DecidableEq, Repr

/-! ## Filters -/

/-- A rule about the events of a target, or about all events.  Events up to a rank are written. -/
structure Directive where
  target : Option (List Char)
  rank : Nat
deriving DecidableEq, Repr

/-- Why a directive cannot be read. -/
inductive DirectiveError where
  | malformed
  | unknownLevel
deriving DecidableEq, Repr

/-- The text of the error. -/
def DirectiveError.message : DirectiveError → String
  | .malformed => "invalid filter directive"
  | .unknownLevel =>
    "error parsing level filter: expected one of \"off\", \"error\", \"warn\", \"info\", "
      ++ "\"debug\", \"trace\", or a number 0-5"

/-- The rank of the level with a name or number; `off` has rank zero. -/
def rank? (text : List Char) : Option Nat :=
  match (String.ofList text).toLower with
  | "off" | "0" => some 0
  | "error" | "1" => some 1
  | "warn" | "2" => some 2
  | "info" | "3" => some 3
  | "debug" | "4" => some 4
  | "trace" | "5" => some 5
  | _ => none

/-- The rank that lets every event through. -/
def fullRank : Nat := 5

/-- Whether a directive may begin with a character. -/
def mayBegin (c : Char) : Bool :=
  Text.isAlphanumeric c || c == '-' || c == ':' || c == '_'

/-- Reads a directive: a level, a target, or both with `=` between them.  A directive about spans,
in brackets, is about no event. -/
def readDirective (text : List Char) : Except DirectiveError (Option Directive) :=
  match text with
  | [] => .error .malformed
  | '[' :: _ => if text.contains ']' then .ok none else .error .malformed
  | c :: _ =>
    if !mayBegin c then .error .malformed
    else
      match text.span fun c => c != '=' && c != '[' with
      | (target, '=' :: level) =>
        if level = [] then .ok (some ⟨some target, fullRank⟩)
        else
          match rank? level with
          | some rank => .ok (some ⟨some target, rank⟩)
          | none => .error .unknownLevel
      | (_, _ :: _) => if text.contains ']' then .ok none else .error .malformed
      | (word, []) =>
        match rank? word with
        | some rank => .ok (some ⟨none, rank⟩)
        | none => .ok (some ⟨some word, fullRank⟩)

/-- The stretches of a text between commas that are not empty. -/
def directiveTexts (text : List Char) : List (List Char) :=
  (text.splitBy fun a b => a != ',' && b != ',').filter fun part => part != [',']

/-- What is written: the events up to the rank that their directive gives.  `hasSpans` says that
there was a directive about spans, which keeps the rule for no directives from being used. -/
structure Filter where
  directives : List Directive
  hasSpans : Bool := false
deriving DecidableEq, Repr

/-- The filter of some directives; without any, only errors are written. -/
def Filter.ofDirectives (ds : List (Option Directive)) : Filter :=
  if ds.isEmpty then ⟨[⟨none, Level.error.rank⟩], false⟩
  else ⟨ds.filterMap id, ds.any Option.isNone⟩

/-- Reads a filter if all of its directives can be read. -/
def Filter.read? (text : String) : Option Filter :=
  match (directiveTexts text.toList).mapM readDirective with
  | .ok ds => some (ofDirectives ds)
  | .error _ => none

/-- Reads a filter and leaves out the directives that cannot be read; about each of them there is a
line of text. -/
def Filter.readLenient (text : String) : Filter × List String :=
  let parts := directiveTexts text.toList
  let ds := parts.filterMap fun part =>
    match readDirective part with
    | .ok d => some d
    | .error _ => none
  let complaints := parts.filterMap fun part =>
    match readDirective part with
    | .ok _ => none
    | .error e => some ("ignoring `" ++ String.ofList part ++ "`: " ++ e.message)
  (ofDirectives ds, complaints)

/-- Whether a directive is about a target. -/
def Directive.isAbout (d : Directive) (target : String) : Bool :=
  match d.target with
  | none => true
  | some start => start.isPrefixOf target.toList

/-- How much a directive says about its target. -/
def Directive.weight (d : Directive) : Nat :=
  match d.target with
  | none => 0
  | some start => start.length + 1

/-- The directive that decides about a target: the one that says most about it, and of equals the
last. -/
def Filter.decisive? (f : Filter) (target : String) : Option Directive :=
  f.directives.foldl (fun best d =>
    if d.isAbout target && best.all fun b => b.weight ≤ d.weight then some d else best) none

/-- Whether a filter lets an event through. -/
def Filter.allows (f : Filter) (e : Event) : Bool :=
  (f.decisive? e.target).any fun d => e.level.rank ≤ d.rank

/-! ## Writing -/

/-- A text between the control sequences that switch a style on and off. -/
def styled (style text : String) : String := "\x1b[" ++ style ++ "m" ++ text ++ "\x1b[0m"

/-- The line of an event with the time it happened at, with styles or without. -/
def Event.line (e : Event) (time : String) (withStyles : Bool) : String :=
  let style (s text : String) := if withStyles then styled s text else text
  let fields := e.fields.map fun f => " " ++ style "3" f.1 ++ style "2" "=" ++ f.2
  style "2" time ++ " " ++ style e.level.color e.level.label ++ " " ++ e.message
    ++ String.join fields ++ "\n"

end Log

end SyntaxKit
