import SyntaxKit.Proofs.Tree.Rebuild
import SyntaxKit.Tree.Balance

/-!
# What balancing does to a tree

`Tree.compress` goes down along a list, turning it at each step, and puts the nodes together again
on its way back.  `Tree.Rotated` describes the outcome one turn at a time, so that a fact about
balancing is proved for a single turn and then holds of `Tree.balanceRoot` and, by
`Tree.balance_eq`, of `Tree.balance`.

The first such fact is that balancing keeps the tokens of a tree, in their order.
-/

namespace SyntaxKit

namespace Tree

/-- Only the last child of a branch is summed up again, and then the branch. -/
theorem resummarizeLast_cases (lang : Language) (t : Tree) :
    resummarizeLast lang t = t ∨ ∃ b front last, t = branch b (front ++ [last])
      ∧ resummarizeLast lang t
        = (branch b (front ++ [last.resummarize lang])).resummarize lang := by
  cases t with
  | token k => exact .inl rfl
  | branch b cs =>
    rcases List.eq_nil_or_concat cs with rfl | ⟨front, last, rfl⟩
    · exact .inl rfl
    · exact .inr ⟨b, front, last, by simp, by simp [resummarizeLast]⟩

/-! ## The leaves of a tree -/

section Leaves

variable {α : Type} (onToken : Token → List α) (onEmpty : Symbol → List α)

mutual

/-- What the leaves of a tree give, from left to right; a branch without children is a leaf. -/
def flatten : Tree → List α
  | token k => onToken k
  | branch b [] => onEmpty b.symbol
  | branch _ (c :: cs) => flatten c ++ flattenAll cs

/-- What the leaves of some trees give, from left to right. -/
def flattenAll : List Tree → List α
  | [] => []
  | t :: ts => flatten t ++ flattenAll ts

end

@[simp] theorem flatten_token (k : Token) : (token k).flatten onToken onEmpty = onToken k := by
  rw [flatten]

@[simp] theorem flatten_branch_nil (b : Branch) :
    (branch b []).flatten onToken onEmpty = onEmpty b.symbol := by rw [flatten]

@[simp] theorem flattenAll_nil : flattenAll onToken onEmpty [] = [] := by rw [flattenAll]

@[simp] theorem flattenAll_cons (t : Tree) (ts : List Tree) :
    flattenAll onToken onEmpty (t :: ts)
      = t.flatten onToken onEmpty ++ flattenAll onToken onEmpty ts := by rw [flattenAll]

@[simp] theorem flatten_branch_cons (b : Branch) (c : Tree) (cs : List Tree) :
    (branch b (c :: cs)).flatten onToken onEmpty
      = c.flatten onToken onEmpty ++ flattenAll onToken onEmpty cs := by rw [flatten]

@[simp] theorem flattenAll_append (ts us : List Tree) :
    flattenAll onToken onEmpty (ts ++ us)
      = flattenAll onToken onEmpty ts ++ flattenAll onToken onEmpty us := by
  induction ts with
  | nil => simp
  | cons t ts ih => simp [ih]

theorem flatten_branch {cs : List Tree} (b : Branch) (h : cs ≠ []) :
    (branch b cs).flatten onToken onEmpty = flattenAll onToken onEmpty cs := by
  cases cs with
  | nil => exact absurd rfl h
  | cons c cs => simp

theorem flatten_branch_congr {cs cs' : List Tree} {b b' : Branch} (hb : b'.symbol = b.symbol)
    (h : cs' = [] ↔ cs = []) (hcs : flattenAll onToken onEmpty cs' = flattenAll onToken onEmpty cs) :
    (branch b' cs').flatten onToken onEmpty = (branch b cs).flatten onToken onEmpty := by
  by_cases hnil : cs = []
  · rw [hnil, h.mpr hnil, flatten_branch_nil, flatten_branch_nil, hb]
  · rw [flatten_branch _ _ _ hnil, flatten_branch _ _ _ (mt h.mp hnil), hcs]

@[simp] theorem flatten_resummarize (lang : Language) (t : Tree) :
    (t.resummarize lang).flatten onToken onEmpty = t.flatten onToken onEmpty := by
  cases t with
  | token k => rfl
  | branch b cs => exact flatten_branch_congr _ _ (Branch.symbol_summarize lang b cs) Iff.rfl rfl

theorem flattenAll_map {f : Tree → Tree} {ts : List Tree}
    (h : ∀ t ∈ ts, (f t).flatten onToken onEmpty = t.flatten onToken onEmpty) :
    flattenAll onToken onEmpty (ts.map f) = flattenAll onToken onEmpty ts := by
  induction ts with
  | nil => rfl
  | cons t ts ih =>
    have hhead := h t (List.mem_cons_self ..)
    have htail := ih fun t ht => h t (List.mem_cons_of_mem _ ht)
    simp [hhead, htail]

@[simp] theorem flatten_resummarizeLast (lang : Language) (t : Tree) :
    (resummarizeLast lang t).flatten onToken onEmpty = t.flatten onToken onEmpty := by
  rcases resummarizeLast_cases lang t with hsame | ⟨b, front, last, rfl, hlast⟩
  · rw [hsame]
  · rw [hlast, flatten_resummarize]
    exact flatten_branch_congr _ _ rfl (by simp) (by simp)

end Leaves

/-- The tokens of a tree, from left to right. -/
def tokens (t : Tree) : List Token := t.flatten (fun k => [k]) fun _ => []

/-- The tokens of some trees, from left to right. -/
def tokensOf (ts : List Tree) : List Token := flattenAll (fun k => [k]) (fun _ => []) ts

@[simp] theorem tokens_token (k : Token) : (token k).tokens = [k] := flatten_token _ _ k

@[simp] theorem tokens_branch (b : Branch) (cs : List Tree) :
    (branch b cs).tokens = tokensOf cs := by
  cases cs with
  | nil => simp [tokens, tokensOf]
  | cons c cs => simp [tokens, tokensOf]

@[simp] theorem tokensOf_nil : tokensOf [] = [] := flattenAll_nil _ _

@[simp] theorem tokensOf_cons (t : Tree) (ts : List Tree) :
    tokensOf (t :: ts) = t.tokens ++ tokensOf ts := flattenAll_cons _ _ t ts

@[simp] theorem tokensOf_append (ts us : List Tree) :
    tokensOf (ts ++ us) = tokensOf ts ++ tokensOf us := flattenAll_append _ _ ts us

@[simp] theorem tokens_ofChildren (lang : Language) (generation : Nat) (symbol : Symbol)
    (production : Nat) (cs : List Tree) :
    (ofChildren lang generation symbol production cs).tokens = tokensOf cs :=
  tokens_branch _ cs

/-- The symbols of the leaves of a tree, from left to right. -/
def leafSymbols (t : Tree) : List Symbol := t.flatten (fun k => [k.symbol]) fun s => [s]

/-- The padding and the size of every leaf of a tree, from left to right. -/
def spans (t : Tree) : List (Extent × Extent) :=
  t.flatten (fun k => [(k.padding, k.size)]) fun _ => [(Extent.zero, Extent.zero)]

@[simp] theorem symbol_resummarizeLast (lang : Language) (t : Tree) :
    (resummarizeLast lang t).symbol = t.symbol := by
  rcases resummarizeLast_cases lang t with hsame | ⟨b, front, last, rfl, hlast⟩
  · rw [hsame]
  · rw [hlast, symbol_resummarize]
    rfl

theorem weight_le_of_mem {c : Tree} {cs : List Tree} (h : c ∈ cs) : c.weight ≤ weights cs := by
  induction cs with
  | nil => simp at h
  | cons t ts ih =>
    rw [weights_cons]
    rcases List.mem_cons.mp h with rfl | h
    · omega
    · have := ih h
      omega

/-! ## One turn after the other -/

variable (lang : Language)

/-- The outcome of turning a list a number of times: the node that has gone up is turned in its
turn, and then the root is put on top of it again. -/
inductive Rotated : Tree → Tree → Prop
  | stay (t : Tree) : Rotated t t
  | turn {b c g : Branch} {others cOthers gs : List Tree} {last u : Tree}
      (child : c.symbol = b.symbol) (grandchild : g.symbol = b.symbol)
      (below : Rotated (branch g (gs ++ [branch c (last :: cOthers)])) u) :
      Rotated (branch b (branch c (branch g (gs ++ [last]) :: cOthers) :: others))
        ((branch b (resummarizeLast lang u :: others)).resummarize lang)

theorem rotateDown_spine (generation n : Nat) (t : Tree) (spine : Spine) :
    rotateDown generation n t spine
      = ((rotateDown generation n t []).1, (rotateDown generation n t []).2 ++ spine) := by
  induction n generalizing t spine with
  | zero => rfl
  | succ n ih =>
    rw [rotateDown, rotateDown]
    split
    · rfl
    · next b others up h =>
      rw [ih up ((b, others) :: spine), ih up [(b, others)]]
      simp

theorem assemble_append (s s' : Spine) (t : Tree) :
    assemble lang (s ++ s') t = assemble lang s' (assemble lang s t) := by
  induction s generalizing t with
  | nil => rfl
  | cons entry s ih => exact ih _

/-- Turning once more: the node that goes up is turned the remaining times. -/
theorem compress_succ (generation n : Nat) (t : Tree) :
    compress lang generation (n + 1) t = match rotateFirst? generation t with
      | none => t
      | some (b, others, up) =>
        (branch b (resummarizeLast lang (compress lang generation n up) :: others)).resummarize
          lang := by
  rw [compress, rotateDown]
  cases h : rotateFirst? generation t with
  | none => rfl
  | some entry =>
    obtain ⟨b, others, up⟩ := entry
    simp only
    rw [rotateDown_spine]
    simp only
    rw [assemble_append]
    rfl

theorem rotated_compress (generation n : Nat) (t : Tree) :
    Rotated lang t (compress lang generation n t) := by
  induction n generalizing t with
  | zero => exact .stay t
  | succ n ih =>
    rw [compress_succ]
    cases h : rotateFirst? generation t with
    | none => exact .stay t
    | some entry =>
      obtain ⟨b, others, up⟩ := entry
      obtain ⟨c, g, cOthers, gs, last, rfl, rfl, hchild, hgrandchild, -, -⟩ :=
        rotateFirst?_eq_some h
      exact .turn hchild hgrandchild (ih _)

/-- A relation that turning keeps to is kept to by balancing the root, where only lists are
balanced. -/
theorem balanceRoot_induction {R : Tree → Tree → Prop} (generation : Nat) (t : Tree)
    (refl : R t t)
    (rotated : 0 < t.repeatDepth → ∀ u v, R t u → Rotated lang u v → R t v) :
    R t (balanceRoot lang generation t) := by
  rw [balanceRoot]
  split
  · next hdepth =>
    have hhalving : ∀ fuel n u, R t u → R t (compressHalving lang generation fuel n u) := by
      intro fuel
      induction fuel with
      | zero => exact fun n u hu => hu
      | succ fuel ih =>
        intro n u hu
        rw [compressHalving]
        split
        · exact hu
        · exact ih _ _ (rotated hdepth u _ hu (rotated_compress lang generation n u))
    split
    · exact hhalving _ _ t refl
    · exact refl
  · exact refl

/-! ## Everywhere -/

/-- What becomes of a child when its parent is balanced. -/
def balanceChild (generation : Nat) (child : Tree) : Tree :=
  match child with
  | branch b (_ :: _) => if b.generation = generation then child.balance lang generation else child
  | _ => child

theorem balanceChild_eq_or (generation : Nat) (child : Tree) :
    balanceChild lang generation child = child
      ∨ balanceChild lang generation child = child.balance lang generation := by
  unfold balanceChild
  split
  · split
    · exact .inr rfl
    · exact .inl rfl
  · exact .inl rfl

/-- **Balancing, as a recursion.**  The list at the root is balanced, and then the children are. -/
theorem balance_eq (generation : Nat) (t : Tree) :
    t.balance lang generation = match balanceRoot lang generation t with
      | token k => token k
      | branch b cs => branch b (cs.map (balanceChild lang generation)) := by
  have hmark : ∀ cs : List Tree,
      (markLoose generation cs).map (rebuildChild (balanceStep lang generation))
        = cs.map (balanceChild lang generation) := by
    intro cs
    rw [markLoose, List.map_map]
    apply List.map_congr_left
    intro c _
    rcases c with k | ⟨b, _ | ⟨first, rest⟩⟩
    · rfl
    · rfl
    · by_cases h : b.generation = generation
      · simp [balanceChild, rebuildChild, balance, h]
      · simp [balanceChild, rebuildChild, h]
  rw [balance, rebuild_eq]
  simp only [balanceStep]
  split
  · next u h =>
    split at h
    · simp at h
    · next k hroot =>
      simp only [Rebuilt.done.injEq] at h
      simp [hroot, ← h]
  · next b children smaller h =>
    split at h
    · next b' cs hroot =>
      simp only [Rebuilt.node.injEq] at h
      simp [hroot, ← h.1, ← h.2, hmark]
    · simp at h

section Leaves

variable {α : Type} (onToken : Token → List α) (onEmpty : Symbol → List α)

theorem flatten_of_rotated {t u : Tree} (h : Rotated lang t u) :
    u.flatten onToken onEmpty = t.flatten onToken onEmpty := by
  induction h with
  | stay t => rfl
  | @turn b c g others cOthers gs last u _ _ _ ih =>
    have hu : (resummarizeLast lang u).flatten onToken onEmpty
        = flattenAll onToken onEmpty (gs ++ last :: cOthers) := by
      rw [flatten_resummarizeLast, ih, flatten_branch _ _ _ (by simp)]
      simp
    rw [flatten_resummarize, flatten_branch_cons, hu, flatten_branch_cons, flatten_branch_cons,
      flatten_branch _ _ _ (by simp)]
    simp

/-- Balancing keeps the leaves of a tree. -/
theorem flatten_balance (generation : Nat) (t : Tree) :
    (t.balance lang generation).flatten onToken onEmpty = t.flatten onToken onEmpty := by
  induction hn : t.weight using Nat.strongRecOn generalizing t with
  | _ n ih =>
    have hroot : (balanceRoot lang generation t).flatten onToken onEmpty
        = t.flatten onToken onEmpty := by
      refine balanceRoot_induction lang
        (R := fun t u => u.flatten onToken onEmpty = t.flatten onToken onEmpty) generation t rfl ?_
      intro _ u v hu huv
      rw [← hu, flatten_of_rotated lang onToken onEmpty huv]
    rw [← hroot, balance_eq]
    cases hu : balanceRoot lang generation t with
    | token k => rfl
    | branch b cs =>
      refine flatten_branch_congr _ _ rfl (by simp) (flattenAll_map _ _ fun c hc => ?_)
      rcases balanceChild_eq_or lang generation c with h | h
      · rw [h]
      · have hlt : c.weight < n := by
          rw [← hn, ← weight_balanceRoot lang generation t, hu, weight_branch]
          exact Nat.lt_succ_of_le (weight_le_of_mem hc)
        rw [h, ih _ hlt c rfl]

end Leaves

/-- Balancing keeps the tokens of a tree, in their order. -/
@[simp] theorem tokens_balance (generation : Nat) (t : Tree) :
    (t.balance lang generation).tokens = t.tokens := flatten_balance lang _ _ generation t

end Tree

end SyntaxKit
