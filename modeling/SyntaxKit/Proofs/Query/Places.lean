import SyntaxKit.Proofs.Tree.Ranges
import SyntaxKit.Query.Place

/-!
# Where the places of a tree begin and end

A query sees the visible nodes of a tree as places.  Like the nodes, the places of a consistent tree, and
the places above them, begin and end at cuts of the tree.
-/

namespace SyntaxKit

namespace Query

variable {lang : Language} {p : Nat → Prop}

/-- A condition on the marks that a query may capture at a place. -/
structure Place.Marks (P : Mark → Prop) (place : Place) : Prop where
  own : P place.mark
  parent : ∀ mark symbol, place.parent = some (mark, symbol) → P mark

/-- A mark of a stretch of text whose ends are allowed. -/
def Mark.Lies (p : Nat → Prop) (mark : Mark) : Prop := Tree.Stretch p mark.start mark.stop

/-- What is approached is consistent and aligned, and so is what is above it. -/
structure Approach.Fits (lang : Language) (p : Nat → Prop) (a : Approach) : Prop where
  consistent : a.tree.Consistent lang
  aligned : a.tree.Aligned (Tree.Ends p) a.offset.bytes
  parent : ∀ mark symbol, a.parent = some (mark, symbol) → mark.Lies p

theorem Approach.Fits.marks {a : Approach} (h : a.Fits lang p) (number : Nat) :
    (a.place lang number).Marks (Mark.Lies p) where
  own := h.consistent.stretch h.aligned
  parent := h.parent

theorem fits_approaches {production depth : Nat} {parent : Option (Mark × Symbol)}
    {above : List Level} (hparent : ∀ mark symbol, parent = some (mark, symbol) → mark.Lies p)
    (labelled : List (Tree × Bool × Bool)) : ∀ {offset : Extent} {index : Nat},
      (∀ x ∈ labelled, x.1.Consistent lang) →
      Tree.AlignedAll (Tree.Ends p) offset.bytes (labelled.map (·.1)) →
      ∀ a ∈ approaches production depth parent above labelled offset index, a.Fits lang p := by
  induction labelled with
  | nil => exact fun _ _ a ha => by simp [approaches] at ha
  | cons x rest ih =>
    obtain ⟨t, follows, namedFollows⟩ := x
    intro offset index hconsistent haligned
    obtain ⟨ht, hrest⟩ := List.forall_mem_cons.mp hconsistent
    obtain ⟨hfirst, hothers⟩ := (Tree.Consistent.alignedAll_cons ht _).mp haligned
    rw [approaches]
    exact List.forall_mem_cons.mpr ⟨⟨ht, hfirst, hparent⟩, ih hrest hothers⟩

/-- What is below what is approached fits if that does. -/
theorem Approach.Fits.children {a : Approach} (h : a.Fits lang p) {depth : Nat}
    {parent : Option (Mark × Symbol)} {above : List Level}
    (hparent : ∀ mark symbol, parent = some (mark, symbol) → mark.Lies p) :
    ∀ b ∈ approaches a.tree.production depth parent above (withFollowing lang a.tree.children).1
      a.offset 0, b.Fits lang p := by
  have hmap := map_fst_withFollowing lang a.tree.children
  refine fits_approaches hparent _ (fun x hx => ?_) (by rw [hmap]; exact h.aligned.children)
  have hmem : x.1 ∈ a.tree.children := by
    rw [← hmap]
    exact List.mem_map_of_mem hx
  exact Tree.Every.of_mem h.consistent hmem

/-- What holds of all that is approached, and below it, holds of all places. -/
theorem forall_collectPlaces {P : Approach → Prop} {Q : Place → Prop}
    (hbelow : ∀ a number, P a → ∀ b ∈ a.below lang number, P b)
    (hinside : ∀ a, P a → ∀ b ∈ a.inside lang, P b) (hplace : ∀ a number, P a → Q (a.place lang number))
    {sites : List Approach} {number : Nat} {seen : List Place} (hsites : ∀ a ∈ sites, P a)
    (hseen : ∀ q ∈ seen, Q q) : ∀ q ∈ collectPlaces lang sites number seen, Q q := by
  fun_induction collectPlaces lang sites number seen with
  | case1 number seen => simpa using hseen
  | case2 number seen a rest _ ih =>
    obtain ⟨ha, hrest⟩ := List.forall_mem_cons.mp hsites
    exact ih (List.forall_mem_append.mpr ⟨hbelow a number ha, hrest⟩)
      (List.forall_mem_cons.mpr ⟨hplace a number ha, hseen⟩)
  | case3 number seen a rest _ ih =>
    obtain ⟨ha, hrest⟩ := List.forall_mem_cons.mp hsites
    exact ih (List.forall_mem_append.mpr ⟨hinside a ha, hrest⟩) hseen

end Query

/-- **Every place of a consistent tree begins and ends where its leaves may**, and so do the places above
them. -/
theorem Tree.Consistent.marks_places {lang : Language} {p : Nat → Prop} {t : Tree}
    (h : t.Consistent lang) (haligned : t.Aligned (Tree.Ends p) 0) :
    ∀ q ∈ t.places lang, q.Marks (Query.Mark.Lies p) := by
  refine Query.forall_collectPlaces (P := fun a => a.Fits lang p) (fun a number ha => ?_)
    (fun a ha => ha.children ha.parent) (fun a number ha => ha.marks number) (fun a ha => ?_) (by simp)
  · refine ha.children fun mark symbol heq => ?_
    obtain ⟨rfl, -⟩ := Prod.mk.inj (Option.some.inj heq)
    exact (ha.marks number).own
  · obtain rfl := List.mem_singleton.mp ha
    exact ⟨h, haligned, by simp⟩

end SyntaxKit
