import SyntaxKit.Query.Program

/-!
# Laying out patterns on a pile

A pattern changes steps near the end of a draft only, but the kernel, when it evaluates a draft, goes
through the array of the steps from the first one on.  A `Pile` is a draft with its last step on top.
Patterns are laid out on it as on the draft that it stands for (`Pile.draft_add`), so a program can be
evaluated as one that is piled up (`Piled.program_ofPatterns`), in a time that grows with the number of its steps
and not with its square.
-/

namespace SyntaxKit.Query

/-- A draft with its steps in a pile, the last one on top. -/
structure Pile where
  steps : List Step
  origins : List (Nat × Nat)

namespace Pile

/-! ## Single steps -/

/-- The draft that a pile stands for. -/
def draft (p : Pile) : Draft := ⟨p.steps.reverse.toArray, p.origins⟩

/-- The pile of a draft. -/
def ofDraft (d : Draft) : Pile := ⟨d.steps.toList.reverse, d.origins⟩

/-- The number of steps so far. -/
def size (p : Pile) : Nat := p.steps.length

/-- Adds a step. -/
def push (p : Pile) (s : Step) : Pile := { p with steps := s :: p.steps }

/-- Changes a step; steps are counted from the bottom. -/
def modify (p : Pile) (i : Nat) (f : Step → Step) : Pile :=
  if i < p.size then { p with steps := p.steps.modify (p.size - 1 - i) f } else p

/-- The alternative of a step. -/
def alternative? (p : Pile) (i : Nat) : Option Nat :=
  if i < p.size then (p.steps[p.size - 1 - i]?).bind (·.alternative) else none

/-- Records where the pattern that makes the next step begins. -/
def mark (p : Pile) (position : Nat) : Pile :=
  match p.origins with
  | (i, _) :: _ => if i = p.size then p else { p with origins := (p.size, position) :: p.origins }
  | [] => { p with origins := [(p.size, position)] }

/-- Does with the draft of a pile what is seldom asked for. -/
def through (p : Pile) (f : Draft → Draft) : Pile := ofDraft (f p.draft)

variable {p : Pile}

@[simp] theorem draft_through (f : Draft → Draft) : (p.through f).draft = f p.draft := by
  simp [through, ofDraft, draft]

@[simp] theorem size_draft : p.draft.size = p.size := by
  simp [draft, Draft.size, size]

@[simp] theorem draft_push (s : Step) : (p.push s).draft = p.draft.push s := by
  simp [draft, push, Draft.push]

/-- A list is changed from the end as its reverse is from the beginning. -/
theorem reverse_modify {α : Type} (l : List α) {i : Nat} (h : i < l.length) (f : α → α) :
    (l.modify (l.length - 1 - i) f).reverse = l.reverse.modify i f := by
  apply List.ext_getElem?
  intro j
  by_cases hj : j < l.length
  · rw [List.getElem?_reverse (by simpa using hj), List.getElem?_modify, List.getElem?_modify,
      List.getElem?_reverse hj, List.length_modify]
    have hsame : l.length - 1 - i = l.length - 1 - j ↔ i = j := by omega
    simp only [hsame]
  · simp [Nat.not_lt.mp hj]

@[simp] theorem draft_modify (i : Nat) (f : Step → Step) :
    (p.modify i f).draft = p.draft.modify i f := by
  rw [modify]
  split
  · next h => simp [draft, Draft.modify, size, reverse_modify p.steps h]
  · next h =>
    have hpast : p.steps.reverse.modify i f = p.steps.reverse :=
      List.modify_eq_self (by simpa [size] using h)
    simp [draft, Draft.modify, hpast]

@[simp] theorem alternative?_draft (i : Nat) : p.draft.alternative? i = p.alternative? i := by
  rw [alternative?]
  split
  · next h => simp [draft, Draft.alternative?, size, List.getElem?_reverse h]
  · next h =>
    have hpast : p.steps.reverse[i]? = none := by simpa [size] using h
    simp [draft, Draft.alternative?, hpast]

@[simp] theorem draft_mark (position : Nat) : (p.mark position).draft = p.draft.mark position := by
  obtain ⟨steps, origins⟩ := p
  cases origins with
  | nil => simp [mark, Draft.mark, draft, size, Draft.size]
  | cons origin rest =>
    simp only [mark, Draft.mark, size_draft]
    split <;> simp_all [draft, size]

/-! ## What follows a pattern -/

/-- Changes a step and the alternatives that are reached from it going forward. -/
def modifyForward (f : Step → Step) : Nat → Nat → Pile → Pile
  | 0, _, p => p
  | fuel + 1, i, p =>
    let p := p.modify i f
    match p.alternative? i with
    | some next => if i < next && next < p.size then modifyForward f fuel next p else p
    | none => p

/-- Applies what follows the pattern that begins at a step. -/
def addSuffix (first depth : Nat) (p : Pile) : Suffix → Pile
  | .capture index => p.modifyForward (·.capture index) (p.size + 1) first
  | suffix => p.through fun d => d.addSuffix first depth suffix

/-- Links the branches of a choice. -/
def linkBranches (stop : Nat) : List Nat → Pile → Pile
  | first :: next :: rest, p =>
    let p := p.modify first fun s => { s with alternative := some next }
    let p := p.modify (next - 1) fun s => { s with role := .jump, alternative := some stop }
    linkBranches stop (next :: rest) p
  | _, p => p

@[simp] theorem draft_modifyForward (f : Step → Step) (fuel i : Nat) (p : Pile) :
    (p.modifyForward f fuel i).draft = p.draft.modifyForward f fuel i := by
  induction fuel generalizing i p with
  | zero => rfl
  | succ fuel ih =>
    simp only [modifyForward, Draft.modifyForward, ← draft_modify, alternative?_draft, size_draft]
    cases (p.modify i f).alternative? i with
    | none => rfl
    | some next =>
      dsimp only
      split
      · exact ih _ _
      · rfl

@[simp] theorem draft_addSuffix (first depth : Nat) (p : Pile) (suffix : Suffix) :
    (p.addSuffix first depth suffix).draft = p.draft.addSuffix first depth suffix := by
  cases suffix <;> simp [addSuffix, Draft.addSuffix]

@[simp] theorem draft_linkBranches (stop : Nat) (firsts : List Nat) (p : Pile) :
    (p.linkBranches stop firsts).draft = p.draft.linkBranches stop firsts := by
  induction firsts generalizing p with
  | nil => rfl
  | cons first rest ih =>
    cases rest with
    | nil => rfl
    | cons next rest => simp [linkBranches, Draft.linkBranches, ih]

/-! ## Patterns -/

mutual

/-- Lays out a pattern at a depth; `adjacent` says that it has to match immediately. -/
def add (depth : Nat) (adjacent : Bool) : Pattern → Pile → Pile
  | .node position test absent children closed suffixes, p =>
    let p := p.mark position
    let first := p.size
    let p := p.push (Step.plain .test depth test adjacent)
    let (p, lastChild) := addChildren (depth + 1) children (p, 0)
    let p := if closed then p.through fun d =>
        d.modifyReachable (fun s => { s with last := true }) (d.size + 1) lastChild
      else p
    let p := p.modify first fun s => { s with absent }
    suffixes.foldl (addSuffix first depth) p
  | .group position members suffixes, p =>
    let p := p.mark position
    suffixes.foldl (addSuffix p.size depth) (addMembers depth adjacent members p)
  | .choice position branches suffixes, p =>
    let p := p.mark position
    let first := p.size
    let (p, firsts) := addBranches depth adjacent branches (p, [])
    suffixes.foldl (addSuffix first depth) (p.linkBranches p.size firsts.reverse)
  | .field position name inner, p =>
    let p := p.mark position
    let first := p.size
    let p := add depth adjacent inner p
    p.modifyForward (fun s => { s with field := some name }) (p.size + 1) first
  | .anchored inner, p => add depth true inner p
  | .condition position, p => p.mark position

/-- Lays out the children of a node, and finds the step that stands for the last of them. -/
def addChildren (depth : Nat) : List Pattern → Pile × Nat → Pile × Nat
  | [], r => r
  | child :: rest, (p, _) =>
    let first := p.size
    let p := add depth false child p
    addChildren depth rest (p, if p.size = first then first - 1 else first)

/-- Lays out the members of a group. -/
def addMembers (depth : Nat) (adjacent : Bool) : List Pattern → Pile → Pile
  | [], p => p
  | member :: rest, p => addMembers depth false rest (add depth adjacent member p)

/-- Lays out the branches of a choice with a place between them, and lists their first steps. -/
def addBranches (depth : Nat) (adjacent : Bool) :
    List Pattern → Pile × List Nat → Pile × List Nat
  | [], r => r
  | [branch], (p, firsts) =>
    let first := p.size
    (add depth adjacent branch p, first :: firsts)
  | branch :: rest, (p, firsts) =>
    let first := p.size
    let p := (add depth adjacent branch p).push (Step.plain .test depth Step.anyNode false)
    addBranches depth adjacent rest (p, first :: firsts)

end

theorem draft_addSuffixes (first depth : Nat) (suffixes : List Suffix) (p : Pile) :
    (suffixes.foldl (addSuffix first depth) p).draft
      = p.draft.addSuffixes first depth suffixes :=
  (List.foldl_hom draft fun p suffix => (draft_addSuffix first depth p suffix).symm).symm

-- By induction on the pattern.  Children and branches yield something beside the steps, which is the same
-- on both sides, hence the `map draft id`.
mutual

/-- **A pattern is laid out on a pile as on the draft that it stands for.** -/
theorem draft_add (depth : Nat) (adjacent : Bool) : ∀ (pattern : Pattern) (p : Pile),
    (p.add depth adjacent pattern).draft = p.draft.add depth adjacent pattern
  | .node position test absent children closed suffixes, p => by
    have hchildren := draft_addChildren (depth + 1) children
      ((p.mark position).push (Step.plain .test depth test adjacent), 0)
    simp only [Prod.map_apply, draft_push, draft_mark, id] at hchildren
    simp only [add, Draft.add, draft_addSuffixes, draft_modify, ← draft_mark, size_draft] at hchildren ⊢
    rw [← hchildren]
    cases closed <;> simp
  | .group position members suffixes, p => by
    simp [add, Draft.add, draft_addSuffixes, draft_addMembers depth adjacent members, ← draft_mark]
  | .choice position branches suffixes, p => by
    have hbranches := draft_addBranches depth adjacent branches (p.mark position, [])
    simp only [Prod.map_apply, id] at hbranches
    simp [add, Draft.add, draft_addSuffixes, ← draft_mark, ← hbranches]
  | .field position name inner, p => by
    simp [add, Draft.add, ← draft_add depth adjacent inner, ← draft_mark]
  | .anchored inner, p => draft_add depth true inner p
  | .condition position, p => draft_mark position

theorem draft_addChildren (depth : Nat) : ∀ (children : List Pattern) (r : Pile × Nat),
    (addChildren depth children r).map draft id
      = Draft.addChildren depth children (r.map draft id)
  | [], r => rfl
  | child :: rest, (p, last) => by
    rw [addChildren, draft_addChildren depth rest]
    simp [Draft.addChildren, ← draft_add depth false child]

theorem draft_addMembers (depth : Nat) (adjacent : Bool) : ∀ (members : List Pattern) (p : Pile),
    (p.addMembers depth adjacent members).draft = p.draft.addMembers depth adjacent members
  | [], p => rfl
  | member :: rest, p => by
    rw [addMembers, draft_addMembers depth false rest, draft_add depth adjacent member]
    rfl

theorem draft_addBranches (depth : Nat) (adjacent : Bool) :
    ∀ (branches : List Pattern) (r : Pile × List Nat),
    (addBranches depth adjacent branches r).map draft id
      = Draft.addBranches depth adjacent branches (r.map draft id)
  | [], r => rfl
  | [branch], (p, firsts) => by
    simp [addBranches, Draft.addBranches, draft_add depth adjacent branch]
  | branch :: other :: rest, (p, firsts) => by
    rw [addBranches, draft_addBranches depth adjacent (other :: rest)]
    · simp [Draft.addBranches, draft_add depth adjacent branch]
    · simp

end

end Pile

/-! ## Programs -/

/-- A program with its steps in a pile. -/
structure Piled where
  pile : Pile
  extents : List (Nat × Nat)
  anywhere : List Start
  atSymbol : List (Symbol × Start)

namespace Piled

/-- The program that is piled up. -/
def program (x : Piled) : Program :=
  ⟨x.pile.draft.steps, x.pile.origins, x.extents, x.anywhere, x.atSymbol⟩

/-- Adds a pattern to a program. -/
def addPattern (x : Piled) (pattern : Pattern) : Piled :=
  let pile := (x.pile.add 0 false pattern).push Step.stop
  let steps := pile.draft.steps
  let starts :=
    Program.startsFrom steps x.extents.length (2 * pile.size + 2) x.pile.size none []
  { pile
    extents := x.extents ++ [(x.pile.size, pile.size)]
    anywhere := x.anywhere ++ starts.filter fun s => (Program.startSymbol steps s).isNone
    atSymbol := x.atSymbol ++ (starts.reverse.filterMap fun s =>
      (Program.startSymbol steps s).map (·, s)) }

/-- The program for some patterns. -/
def ofPatterns (patterns : List Pattern) : Piled :=
  patterns.foldl addPattern ⟨⟨[], []⟩, [], [], []⟩

theorem program_addPattern (x : Piled) (pattern : Pattern) :
    (x.addPattern pattern).program = x.program.addPattern pattern := by
  have hdraft : ((x.pile.add 0 false pattern).push Step.stop).draft
      = (Draft.add 0 false pattern ⟨x.pile.draft.steps, x.pile.origins⟩).push Step.stop := by
    rw [Pile.draft_push, Pile.draft_add]
    rfl
  have hsize : x.pile.draft.steps.size = x.pile.size := Pile.size_draft
  simp only [addPattern, program, Program.addPattern, ← hdraft, hsize, Pile.size_draft]
  rfl

/-- **The program for some patterns can be piled up.** -/
theorem program_ofPatterns (patterns : List Pattern) :
    (ofPatterns patterns).program = Program.ofPatterns patterns :=
  (List.foldl_hom program fun x pattern => (program_addPattern x pattern).symm).symm

end Piled

end SyntaxKit.Query
