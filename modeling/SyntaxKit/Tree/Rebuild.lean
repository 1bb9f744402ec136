import SyntaxKit.Tree.Basic

/-!
# Rebuilding trees

A tree is rebuilt from the root down: a step changes a node and says which of its children are to be
rebuilt in turn, handing each of them a label to work with.  The way back up is kept as a list, so
that the depth of a tree is limited by nothing but memory.  A step may give a node other children
than it had, but not more nodes below it, and so rebuilding comes to an end.
-/

namespace SyntaxKit

namespace Tree

/-- The outcome of a step: a subtree that is finished, or a node with its children and the labels of
those that are to be rebuilt. -/
inductive Rebuilt (α : Type) (t : Tree) where
  | done (u : Tree)
  | node (b : Branch) (children : List (Tree × Option α))
    (smaller : weights (children.map (·.1)) < t.weight)

/-- A node whose children are being rebuilt: those done, the last one first, and those to do. -/
structure Unfinished (α : Type) where
  branch : Branch
  done : List Tree
  todo : List (Tree × Option α)

/-- How many nodes there are in the children still to do. -/
def Unfinished.weight {α : Type} (node : Unfinished α) : Nat := weights (node.todo.map (·.1))

/-- The weight of what several nodes still lack. -/
def pendingWeight {α : Type} : List (Unfinished α) → Nat
  | [] => 0
  | node :: above => node.weight + pendingWeight above

@[simp] theorem pendingWeight_nil {α : Type} : pendingWeight ([] : List (Unfinished α)) = 0 := rfl

@[simp] theorem pendingWeight_cons {α : Type} (node : Unfinished α) (above : List (Unfinished α)) :
    pendingWeight (node :: above) = node.weight + pendingWeight above := rfl

/-- Rebuilds the children of a node and of the nodes above it. -/
def rebuildLoop {α : Type} (step : α → (t : Tree) → Rebuilt α t)
    (above : List (Unfinished α)) (node : Unfinished α) : Tree :=
  match _htodo : node.todo with
  | [] =>
    let t := branch node.branch node.done.reverse
    match above with
    | [] => t
    | parent :: above => rebuildLoop step above { parent with done := t :: parent.done }
  | (child, none) :: rest =>
    rebuildLoop step above { node with done := child :: node.done, todo := rest }
  | (child, some label) :: rest =>
    match step label child with
    | .done t => rebuildLoop step above { node with done := t :: node.done, todo := rest }
    | .node b children _ =>
      rebuildLoop step ({ node with todo := rest } :: above) ⟨b, [], children⟩
termination_by 2 * (node.weight + pendingWeight above) + above.length
decreasing_by
  · simp [Unfinished.weight, _htodo]
  · simpa [Unfinished.weight, _htodo] using child.weight_pos
  · simpa [Unfinished.weight, _htodo] using child.weight_pos
  · simp [Unfinished.weight, _htodo] at *
    omega

/-- Rebuilds a tree from the root down, beginning with a label for the root. -/
def rebuild {α : Type} (step : α → (t : Tree) → Rebuilt α t) (label : α) (t : Tree) : Tree :=
  match step label t with
  | .done t => t
  | .node b children _ => rebuildLoop step [] ⟨b, [], children⟩

/-- Bounds the steps of walks over a tree; far more than any tree has nodes. -/
def maxSteps : Nat := 18446744073709551616

end Tree

end SyntaxKit
