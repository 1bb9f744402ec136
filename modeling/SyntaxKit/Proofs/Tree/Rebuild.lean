import SyntaxKit.Proofs.Tree.Summary
import SyntaxKit.Tree.Rebuild

/-!
# Rebuilding as a recursion

`Tree.rebuild` keeps the way back up in a list.  `Tree.rebuild_eq` gives it the form in which it is
reasoned about: the step changes the root, and the children that it labels are rebuilt in turn.
-/

namespace SyntaxKit

namespace Tree

section Rebuild

variable {α : Type} (step : α → (t : Tree) → Rebuilt α t)

/-- A child after rebuilding: one without a label stays as it is. -/
def rebuildChild : Tree × Option α → Tree
  | (child, none) => child
  | (child, some label) => child.rebuild step label

/-- What becomes of a tree that is put in its place below the nodes above it, when their remaining
children are rebuilt. -/
def plug : List (Unfinished α) → Tree → Tree
  | [], t => t
  | node :: above, t =>
    plug above (branch node.branch
      ((t :: node.done).reverse ++ node.todo.map (rebuildChild step)))

/-- How many steps `rebuildLoop` has before it. -/
def stepsLeft (above : List (Unfinished α)) (node : Unfinished α) : Nat :=
  2 * (node.weight + pendingWeight above) + above.length

theorem rebuildLoop_eq (above : List (Unfinished α)) (node : Unfinished α) :
    rebuildLoop step above node
      = plug step above (branch node.branch
          (node.done.reverse ++ node.todo.map (rebuildChild step))) := by
  induction hn : stepsLeft above node using Nat.strongRecOn generalizing above node with
  | _ n ih =>
    obtain ⟨b, done, todo⟩ := node
    cases todo with
    | nil =>
      cases above with
      | nil =>
        rw [rebuildLoop]
        simp [plug]
      | cons parent above =>
        have hlt : stepsLeft above { parent with done := branch b done.reverse :: parent.done }
            < n := by
          subst hn
          simp [stepsLeft, Unfinished.weight]
        rw [rebuildLoop]
        simp only [List.map_nil, List.append_nil]
        rw [ih _ hlt _ _ rfl, plug]
    | cons entry rest =>
      obtain ⟨child, label⟩ := entry
      have hpos := child.weight_pos
      have hlt : ∀ done', stepsLeft above ⟨b, done', rest⟩ < n := fun done' => by
        subst hn
        simp [stepsLeft, Unfinished.weight]
        omega
      cases label with
      | none =>
        rw [rebuildLoop]
        simp only
        rw [ih _ (hlt (child :: done)) _ _ rfl]
        simp [rebuildChild]
      | some label =>
        rw [rebuildLoop]
        simp only
        cases hstep : step label child with
        | done u =>
          simp only
          rw [ih _ (hlt (u :: done)) _ _ rfl]
          simp [rebuildChild, rebuild, hstep]
        | node b' children smaller =>
          have hbelow : stepsLeft (⟨b, done, rest⟩ :: above) ⟨b', [], children⟩ < n := by
            subst hn
            simp [stepsLeft, Unfinished.weight]
            omega
          have halone : stepsLeft ([] : List (Unfinished α)) ⟨b', [], children⟩ < n := by
            subst hn
            simp [stepsLeft, Unfinished.weight]
            omega
          have hchild : rebuildChild step (child, some label)
              = branch b' (children.map (rebuildChild step)) := by
            rw [rebuildChild, rebuild, hstep]
            simp only
            rw [ih _ halone _ _ rfl]
            rfl
          simp only
          rw [ih _ hbelow _ _ rfl, plug]
          simp [hchild]

/-- **Rebuilding, as a recursion.**  The step is applied to the root; if it does not finish the tree,
the children it labels are rebuilt. -/
theorem rebuild_eq (label : α) (t : Tree) :
    t.rebuild step label = match step label t with
      | .done u => u
      | .node b children _ => branch b (children.map (rebuildChild step)) := by
  rw [rebuild]
  cases step label t with
  | done u => rfl
  | node b children smaller =>
    simp only
    rw [rebuildLoop_eq]
    rfl

end Rebuild

end Tree

end SyntaxKit
