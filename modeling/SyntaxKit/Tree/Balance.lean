import SyntaxKit.Tree.Rebuild

/-!
# Balancing lists

The parser builds a list of `n` items as pairs nested `n` deep at the left.  Before a tree is handed
out its lists are rotated until their depth is logarithmic, so that a later edit has little to
rebuild.  Only nodes built in the same parse are moved; what was taken over stays as it was.  The
visible nodes and their order do not change.
-/

namespace SyntaxKit

namespace Tree

/-- Whether a node may be rotated: it is a pair of the given list and was built in this parse. -/
def isLooseList (generation : Nat) (symbol : Symbol) : Tree → Bool
  | token _ => false
  | branch b cs =>
    b.symbol == symbol && b.generation == generation && 2 ≤ cs.length

/-- A node on the way down while rotating: its branch and its children without the first. -/
abbrev Spine := List (Branch × List Tree)

/-- One rotation at the first child: the first grandchild goes up, the child goes down to be the
last child of the grandchild, and takes over the grandchild's last child. -/
def rotateFirst? (generation : Nat) (t : Tree) : Option (Branch × List Tree × Tree) :=
  match t with
  | branch b (child :: others) =>
    if isLooseList generation b.symbol child then
      match child with
      | branch c (grandchild :: cOthers) =>
        if isLooseList generation b.symbol grandchild then
          match grandchild with
          | branch g gs =>
            match gs.getLast? with
            | some last => some (b, others, branch g (gs.dropLast ++ [branch c (last :: cOthers)]))
            | none => none
          | token _ => none
        else none
      | _ => none
    else none
  | _ => none

/-- Rotates `n` times, going down along the nodes that go up. -/
def rotateDown (generation : Nat) : Nat → Tree → Spine → Tree × Spine
  | 0, t, spine => (t, spine)
  | n + 1, t, spine =>
    match rotateFirst? generation t with
    | none => (t, spine)
    | some (b, others, up) => rotateDown generation n up ((b, others) :: spine)

/-- Computes the summary of the last child again, and then that of the node itself. -/
def resummarizeLast (lang : Language) : Tree → Tree
  | token t => token t
  | branch b cs =>
    match cs.getLast? with
    | some last => (branch b (cs.dropLast ++ [last.resummarize lang])).resummarize lang
    | none => branch b cs

/-- Puts the nodes on the way down together again, from below. -/
def assemble (lang : Language) : Spine → Tree → Tree
  | [], t => t
  | (b, others) :: spine, t =>
    assemble lang spine ((branch b (resummarizeLast lang t :: others)).resummarize lang)

/-- Rotates the list at the root `n` times. -/
def compress (lang : Language) (generation n : Nat) (t : Tree) : Tree :=
  let (t, spine) := rotateDown generation n t []
  assemble lang spine t

/-- Rotates a half, a quarter, and so on of the excess depth. -/
def compressHalving (lang : Language) (generation : Nat) : Nat → Nat → Tree → Tree
  | 0, _, t => t
  | fuel + 1, n, t =>
    if n = 0 then t
    else compressHalving lang generation fuel (n / 2) (compress lang generation n t)

/-- Balances the list at the root, if there is one. -/
def balanceRoot (lang : Language) (generation : Nat) (t : Tree) : Tree :=
  if 0 < t.repeatDepth then
    match t.children.head?, t.children.getLast? with
    | some first, some last =>
      compressHalving lang generation 64 ((first.repeatDepth - last.repeatDepth) / 2) t
    | _, _ => t
  else t

/-! ### Rotating moves nodes, and neither makes nor loses any -/

@[simp] theorem weight_resummarize (lang : Language) (t : Tree) :
    (t.resummarize lang).weight = t.weight := by
  cases t <;> simp [resummarize]

@[simp] theorem weight_resummarizeLast (lang : Language) (t : Tree) :
    (resummarizeLast lang t).weight = t.weight := by
  cases t with
  | token k => rfl
  | branch b cs =>
    rw [resummarizeLast]
    split
    · next last h =>
      obtain ⟨front, rfl⟩ := List.getLast?_eq_some_iff.mp h
      simp
    · rfl

/-- What a rotation takes apart, and what it puts together. -/
theorem rotateFirst?_eq_some {generation : Nat} {t up : Tree} {b : Branch} {others : List Tree}
    (h : rotateFirst? generation t = some (b, others, up)) :
    ∃ (c g : Branch) (cOthers gs : List Tree) (last : Tree),
      t = branch b (branch c (branch g (gs ++ [last]) :: cOthers) :: others)
        ∧ up = branch g (gs ++ [branch c (last :: cOthers)])
        ∧ c.symbol = b.symbol ∧ g.symbol = b.symbol
        ∧ cOthers ≠ [] ∧ gs ≠ [] := by
  unfold rotateFirst? at h
  split at h
  · split at h
    · next hchild =>
      split at h
      · split at h
        · next hgrandchild =>
          split at h
          · split at h
            · next hlast =>
              obtain ⟨gs, rfl⟩ := List.getLast?_eq_some_iff.mp hlast
              simp only [Option.some.injEq, Prod.mk.injEq] at h
              obtain ⟨rfl, rfl, rfl⟩ := h
              simp only [isLooseList, Bool.and_eq_true, beq_iff_eq, decide_eq_true_eq] at hchild
              simp only [isLooseList, Bool.and_eq_true, beq_iff_eq, decide_eq_true_eq]
                at hgrandchild
              refine ⟨_, _, _, gs, _, rfl, by simp, hchild.1.1, hgrandchild.1.1, ?_, ?_⟩
              · rintro rfl
                simp at hchild
              · rintro rfl
                simp at hgrandchild
            · simp at h
          · simp at h
        · simp at h
      · simp at h
    · simp at h
  · simp at h

theorem weight_rotateFirst? {generation : Nat} {t up : Tree} {b : Branch} {others : List Tree}
    (h : rotateFirst? generation t = some (b, others, up)) :
    t.weight = up.weight + weights others + 1 := by
  obtain ⟨c, g, cOthers, gs, last, rfl, rfl, -⟩ := rotateFirst?_eq_some h
  simp
  omega

/-- The weight of the nodes on a spine and of what hangs beside it. -/
def spineWeight : Spine → Nat
  | [] => 0
  | s :: spine => weights s.2 + 1 + spineWeight spine

theorem weight_assemble (lang : Language) (spine : Spine) (t : Tree) :
    (assemble lang spine t).weight = t.weight + spineWeight spine := by
  induction spine generalizing t with
  | nil => rfl
  | cons s spine ih =>
    rw [assemble, ih, spineWeight]
    simp
    omega

theorem weight_rotateDown (generation n : Nat) (t : Tree) (spine : Spine) :
    (rotateDown generation n t spine).1.weight
        + spineWeight (rotateDown generation n t spine).2
      = t.weight + spineWeight spine := by
  induction n generalizing t spine with
  | zero => rfl
  | succ n ih =>
    rw [rotateDown]
    split
    · rfl
    · next h =>
      rw [ih, weight_rotateFirst? h, spineWeight]
      simp only
      omega

@[simp] theorem weight_compress (lang : Language) (generation n : Nat) (t : Tree) :
    (compress lang generation n t).weight = t.weight := by
  have h := weight_rotateDown generation n t []
  simpa [compress, weight_assemble, spineWeight] using h

@[simp] theorem weight_compressHalving (lang : Language) (generation fuel n : Nat) (t : Tree) :
    (compressHalving lang generation fuel n t).weight = t.weight := by
  induction fuel generalizing n t with
  | zero => rfl
  | succ fuel ih =>
    rw [compressHalving]
    split <;> simp [ih]

@[simp] theorem weight_balanceRoot (lang : Language) (generation : Nat) (t : Tree) :
    (balanceRoot lang generation t).weight = t.weight := by
  rw [balanceRoot]
  split
  · split <;> simp
  · rfl

/-! ### Balancing everywhere -/

/-- The children of a node, marked where their inside is to be balanced as well. -/
def markLoose (generation : Nat) (children : List Tree) : List (Tree × Option Unit) :=
  children.map fun child =>
    match child with
    | branch b (_ :: _) => (child, if b.generation = generation then some () else none)
    | _ => (child, none)

@[simp] theorem map_fst_markLoose (generation : Nat) (children : List Tree) :
    (markLoose generation children).map (·.1) = children := by
  induction children with
  | nil => rfl
  | cons child rest ih =>
    have hfirst : (markLoose generation (child :: rest)).map (·.1)
        = child :: (markLoose generation rest).map (·.1) := by
      simp only [markLoose, List.map_cons]
      split <;> rfl
    rw [hfirst, ih]

/-- Balances the root and marks the children. -/
def balanceStep (lang : Language) (generation : Nat) (_ : Unit) (t : Tree) : Rebuilt Unit t :=
  match h : balanceRoot lang generation t with
  | branch b cs => .node b (markLoose generation cs) (by
      rw [map_fst_markLoose, ← weight_balanceRoot lang generation t, h, weight_branch]
      omega)
  | token k => .done (token k)

/-- Balances all lists that were built in a parse. -/
def balance (lang : Language) (generation : Nat) (t : Tree) : Tree :=
  t.rebuild (balanceStep lang generation) ()

end Tree

end SyntaxKit
