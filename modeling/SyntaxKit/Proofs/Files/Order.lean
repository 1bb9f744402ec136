import Mathlib.Data.List.Lex
import SyntaxKit.Proofs.Files.Paths

/-!
# The order of paths

Paths are compared component by component (`Path.Precedes`): the root comes first, then a `.` at the
start, then `..`, and names come last, in the order of their bytes.  `Path.le` decides this
order by lists of numbers (`Path.precedes_iff`), so sorting by it puts paths of different components
into strictly increasing order (`Path.pairwise_mergeSort`).
-/

namespace SyntaxKit

namespace Path

variable {p q : Path}

/-- Where a step stands among steps of other kinds. -/
def Component.rank : Component → Nat
  | .root => 0
  | .current => 1
  | .parent => 2
  | .normal _ => 3

/-- A step comes before another. -/
def Component.Before : Component → Component → Prop
  | .normal m, .normal n => m < n
  | c, d => c.rank < d.rank

/-- A path comes before another: it does in the first component in which they differ, or it ends
there. -/
def Precedes (p q : Path) : Prop := List.Lex Component.Before p.components q.components

/-! ## Numbers for components -/

/-- A function that keeps apart what is different keeps the order of lists. -/
theorem lex_map_iff {α β : Type} {f : α → β} {r : β → β → Prop} (hf : Function.Injective f)
    (l l' : List α) :
    List.Lex r (l.map f) (l'.map f) ↔ List.Lex (fun a b => r (f a) (f b)) l l' := by
  induction l generalizing l' with
  | nil =>
    cases l' with
    | nil => simp
    | cons b l' => exact ⟨fun _ => .nil, fun _ => .nil⟩
  | cons a l ih =>
    cases l' with
    | nil => simp
    | cons b l' =>
      rw [List.map_cons, List.map_cons, List.cons_lex_cons_iff, List.cons_lex_cons_iff, ih,
        hf.eq_iff]

theorem toNat_injective : Function.Injective UInt8.toNat := fun _ _ h => UInt8.toNat_inj.mp h

theorem Component.key_injective : Function.Injective Component.key := by
  intro c d h
  cases c <;> cases d <;> simp [key] at h ⊢
  exact List.map_injective_iff.mpr toNat_injective h

/-- Components are ordered like their numbers. -/
theorem Component.before_iff (c d : Component) : c.Before d ↔ c.key < d.key := by
  cases c with
  | normal m =>
    cases d with
    | normal n =>
      have hbytes : m.map UInt8.toNat < n.map UInt8.toNat ↔ m < n := lex_map_iff toNat_injective m n
      rw [key, key, List.cons_lt_cons_iff, hbytes]
      simp [Before]
    | root | current | parent => simp [Before, rank, key, List.cons_lt_cons_iff]
  | root | current | parent =>
    cases d <;> simp [Before, rank, key, List.cons_lt_cons_iff]

/-- **Paths are ordered like their numbers.** -/
theorem precedes_iff (p q : Path) : p.Precedes q ↔ p.key < q.key := by
  have hkeys : p.key < q.key ↔ List.Lex (fun c d => Component.key c < Component.key d)
      p.components q.components :=
    lex_map_iff Component.key_injective p.components q.components
  have hsteps : Component.Before = fun c d => c.key < d.key := by
    funext c d
    exact propext (Component.before_iff c d)
  rw [hkeys, Precedes, hsteps]

theorem le_eq_true_iff (p q : Path) : p.le q = true ↔ p.key ≤ q.key := by
  have hnumbers (m n : List Nat) : List.lex m n Nat.blt = true ↔ m < n := by
    rw [List.lex_eq_true_iff_lex]
    simp only [Nat.blt_eq]
    rfl
  rw [le, Bool.not_eq_true', ← Bool.not_eq_true, List.lex_eq_true_iff_lex, ← not_lt]
  simp only [hnumbers]
  rfl

/-- **Sorting puts paths of different components into strictly increasing order.** -/
theorem pairwise_mergeSort {ps : List Path} (h : (ps.map components).Nodup) :
    (ps.mergeSort le).Pairwise Precedes := by
  have htrans (p q r : Path) (hpq : p.le q = true) (hqr : q.le r = true) : p.le r = true := by
    rw [le_eq_true_iff] at hpq hqr ⊢
    exact hpq.trans hqr
  have htotal (p q : Path) : (p.le q || q.le p) = true := by
    rw [Bool.or_eq_true, le_eq_true_iff, le_eq_true_iff]
    exact le_total _ _
  have hsorted := List.pairwise_mergeSort htrans htotal ps
  have hapart : (ps.mergeSort le).Pairwise fun p q => p.components ≠ q.components := by
    have hperm := (List.mergeSort_perm ps le).map components
    exact List.pairwise_map.mp (hperm.nodup_iff.mpr h)
  refine hsorted.imp₂ ?_ hapart
  intro p q hle hne
  rw [precedes_iff]
  refine lt_of_le_of_ne ((le_eq_true_iff p q).mp hle) fun hkeys => hne ?_
  exact List.map_injective_iff.mpr Component.key_injective hkeys

end Path

end SyntaxKit
