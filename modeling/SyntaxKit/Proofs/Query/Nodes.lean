import Mathlib.Data.List.Forall2
import SyntaxKit.Proofs.Document.Points
import SyntaxKit.Proofs.Query.Places
import SyntaxKit.Query.Matching

/-!
# Places and nodes

A query and the outline of a tree see the same nodes: the places of a tree, in order, are those of the
nodes of its outline, numbered from zero on (`Tree.places_all`).  In a tree that lies in a text no place
that is over some text ends at the very start of the text, and neither does the place above it
(`Tree.Parsed.not_endsAtStart`).
-/

namespace SyntaxKit

namespace Query

variable {lang : Language} {text : List Char}

/-! ## Walking over places -/

/-- The place is that of the node of an outline with a number. -/
structure Place.IsOf (place : Place) (o : Outline × Nat) : Prop where
  mark : place.mark = ⟨o.2, o.1.node.start, o.1.node.stop⟩
  symbol : place.symbol = o.1.node.tree.symbol

/-- What is approached below a visible node is what is at a site. -/
structure Approach.IsAt (a : Approach) (s : Tree.Site) : Prop where
  tree : a.tree = s.tree
  offset : a.offset = s.offset
  parent : a.parent.isSome = true

theorem Approach.IsAt.place {a : Approach} {s : Tree.Site} (h : a.IsAt s) (number : Nat)
    (os : List Outline) : (a.place lang number).IsOf (.mk s.node os, number) where
  mark := by
    rw [Approach.place, h.tree, h.offset]
    rfl
  symbol := by
    rw [Approach.place, h.tree]
    rfl

theorem isAt_approaches {production production' depth depth' : Nat} {field : Option String}
    {parent : Option (Mark × Symbol)} (hparent : parent.isSome = true) (above : List Level)
    (labelled : List (Tree × Bool × Bool)) : ∀ (offset : Extent) (index index' : Nat),
      List.Forall₂ Approach.IsAt
        (approaches production depth parent above labelled offset index)
        (Tree.childSites lang production' depth' field (labelled.map (·.1)) offset index') := by
  induction labelled with
  | nil => exact fun _ _ _ => .nil
  | cons x rest ih =>
    obtain ⟨t, follows, namedFollows⟩ := x
    intro offset index index'
    rw [approaches, List.map_cons, Tree.childSites]
    split
    · exact .cons ⟨rfl, rfl, hparent⟩ (ih _ _ _)
    · exact .cons ⟨rfl, rfl, hparent⟩ (ih _ _ _)

/-- The children of what is approached, below a node or in its place, are those at its site. -/
theorem isAt_children {a : Approach} {s : Tree.Site} (htree : a.tree = s.tree)
    (hoffset : a.offset = s.offset) {parent : Option (Mark × Symbol)} (hparent : parent.isSome = true)
    (depth depth' : Nat) (above : List Level) (field : Option String) :
    List.Forall₂ Approach.IsAt
      (approaches a.tree.production depth parent above (withFollowing lang a.tree.children).1
        a.offset 0)
      (Tree.childSites lang s.tree.production depth' field s.tree.children s.offset 0) := by
  have h := @isAt_approaches lang a.tree.production s.tree.production depth depth' field parent hparent
    above (withFollowing lang a.tree.children).1 a.offset 0 0
  rw [map_fst_withFollowing, hoffset] at h
  rw [hoffset, ← htree]
  rwa [← htree] at h

/-- The places that are collected are those of the outlines at the sites, in order. -/
theorem collectPlaces_spec {as : List Approach} {number : Nat} {seen : List Place} :
    ∀ {sites : List Tree.Site}, List.Forall₂ Approach.IsAt as sites →
      ∃ places, collectPlaces lang as number seen = seen.reverse ++ places
        ∧ List.Forall₂ Place.IsOf places
          ((Outline.allOf (Tree.outlines lang sites)).zipIdx number) := by
  fun_induction collectPlaces lang as number seen with
  | case1 number seen =>
    rintro sites ⟨⟩
    exact ⟨[], by simp, by simp⟩
  | case2 number seen a rest hshown ih =>
    rintro sites (_ | @⟨_, s, _, others, ha, hothers⟩)
    have hvisible : lang.isVisible s.tree.symbol = true := by
      have hparent := ha.parent
      rw [ha.tree] at hshown
      cases hp : a.parent with
      | none => simp [hp] at hparent
      | some x => simpa [hp] using hshown
    have hbelow : List.Forall₂ Approach.IsAt (a.below lang number) (s.below lang) :=
      isAt_children ha.tree ha.offset rfl _ _ _ _
    obtain ⟨places, hplaces, hare⟩ := ih (List.rel_append hbelow hothers)
    refine ⟨a.place lang number :: places, ?_, ?_⟩
    · rw [hplaces, List.reverse_cons, List.append_assoc, List.singleton_append]
    · rw [Tree.outlines_append, Outline.allOf_append] at hare
      rw [Tree.outlines_cons_visible lang hvisible, Outline.allOf_cons, Outline.all_mk,
        List.cons_append, List.zipIdx_cons]
      exact .cons (ha.place number _) hare
  | case3 number seen a rest hhidden ih =>
    rintro sites (_ | @⟨_, s, _, others, ha, hothers⟩)
    have hinvisible : lang.isVisible s.tree.symbol = false := by
      rw [ha.tree] at hhidden
      simp only [Bool.or_eq_true, not_or, Bool.not_eq_true] at hhidden
      exact hhidden.2
    have hinside : List.Forall₂ Approach.IsAt (a.inside lang) (s.inside lang) :=
      isAt_children ha.tree ha.offset ha.parent _ _ _ _
    obtain ⟨places, hplaces, hare⟩ := ih (List.rel_append hinside hothers)
    exact ⟨places, hplaces, by rwa [Tree.outlines_cons_invisible lang hinvisible]⟩

end Query

open Query

/-- **The places of a tree are those of the nodes of its outline**, in the same order, and numbered in
that order. -/
theorem Tree.places_all (lang : Language) (t : Tree) :
    List.Forall₂ Place.IsOf (t.places lang) (t.outline lang).all.zipIdx := by
  let root : Approach := ⟨t, Extent.zero, 0, none, []⟩
  let site : Site := ⟨t, Extent.zero, 0, none⟩
  have hbelow : List.Forall₂ Approach.IsAt (root.below lang 0 ++ []) (site.below lang) := by
    rw [List.append_nil]
    exact isAt_children rfl rfl rfl _ _ _ _
  obtain ⟨places, hplaces, hare⟩ :=
    @collectPlaces_spec lang _ 1 [root.place lang 0] _ hbelow
  have hall : t.places lang = root.place lang 0 :: places := by
    rw [Tree.places, collectPlaces, if_pos (by rfl)]
    exact hplaces
  rw [hall, outline, Outline.all_mk, List.zipIdx_cons]
  refine .cons ⟨?_, rfl⟩ hare
  simp [root, Approach.place, Outline.node, Tree.root, Node.stop]

/-- Every node of the outline has a place. -/
theorem Tree.exists_place (lang : Language) {t : Tree} {o : Outline}
    (ho : o ∈ (t.outline lang).all) : ∃ place ∈ t.places lang, ∃ i : Nat,
      (t.outline lang).all[i]? = some o ∧ place.mark = ⟨i, o.node.start, o.node.stop⟩
        ∧ place.symbol = o.node.tree.symbol := by
  have h := t.places_all lang
  obtain ⟨i, hlt, hi⟩ := List.getElem_of_mem ho
  have hlength := h.length_eq
  rw [List.length_zipIdx] at hlength
  have hplace := h.get (i := i) (by rwa [hlength]) (by rwa [List.length_zipIdx])
  simp only [List.get_eq_getElem, List.getElem_zipIdx, Nat.zero_add, hi] at hplace
  exact ⟨_, List.getElem_mem _, i, List.getElem?_eq_some_iff.mpr ⟨hlt, hi⟩, hplace.mark,
    hplace.symbol⟩

/-! ## Where places end -/

namespace Query

variable {lang : Language} {cut : Cutting}

/-- What is approached lies where a text may be cut, and within what is above it. -/
structure Approach.Stops (lang : Language) (cut : Cutting) (a : Approach) : Prop where
  consistent : a.tree.Consistent lang
  aligned : a.tree.Aligned cut.lies a.offset.bytes
  cuts : cut.cuts a.offset
  parent : ∀ mark symbol, a.parent = some (mark, symbol) → cut.cuts mark.stop
    ∧ (a.offset + a.tree.totalSize).bytes ≤ mark.stop.bytes

/-- A place ends where a text may be cut, and so does the one above it, which does not end before. -/
structure Place.Stops (cut : Cutting) (place : Place) : Prop where
  own : cut.cuts place.mark.stop
  parent : ∀ mark symbol, place.parent = some (mark, symbol) → cut.cuts mark.stop
    ∧ place.mark.stop.bytes ≤ mark.stop.bytes

theorem Approach.Stops.place {a : Approach} (h : a.Stops lang cut) (number : Nat) :
    (a.place lang number).Stops cut := by
  have hstop : (a.place lang number).mark.stop = a.offset + a.tree.totalSize :=
    Extent.add_assoc _ _ _
  refine ⟨?_, fun mark symbol hparent => ?_⟩
  · rw [hstop]
    exact h.consistent.cuts_stop h.cuts h.aligned
  · rw [hstop]
    exact h.parent mark symbol hparent

theorem stops_approaches {production depth : Nat} {parent : Option (Mark × Symbol)}
    {above : List Level} {last : Nat} (hparent : ∀ mark symbol, parent = some (mark, symbol) →
      cut.cuts mark.stop ∧ last ≤ mark.stop.bytes)
    (labelled : List (Tree × Bool × Bool)) : ∀ {offset : Extent} {index : Nat}, cut.cuts offset →
      (∀ x ∈ labelled, x.1.Consistent lang) →
      Tree.AlignedAll cut.lies offset.bytes (labelled.map (·.1)) →
      (offset + Tree.totalSizes (labelled.map (·.1))).bytes ≤ last →
      ∀ a ∈ approaches production depth parent above labelled offset index, a.Stops lang cut := by
  induction labelled with
  | nil => exact fun _ _ _ _ a ha => by simp [approaches] at ha
  | cons x rest ih =>
    obtain ⟨t, follows, namedFollows⟩ := x
    intro offset index hoffset hconsistent haligned hlast
    obtain ⟨ht, hrest⟩ := List.forall_mem_cons.mp hconsistent
    obtain ⟨hfirst, hothers⟩ := (Tree.Consistent.alignedAll_cons ht _).mp haligned
    rw [List.map_cons, Tree.totalSizes_cons, ← Extent.add_assoc] at hlast
    rw [approaches]
    refine List.forall_mem_cons.mpr ⟨⟨ht, hfirst, hoffset, fun mark symbol heq => ?_⟩,
      ih (ht.cuts_stop hoffset hfirst) hrest hothers hlast⟩
    obtain ⟨hcuts, hle⟩ := hparent mark symbol heq
    refine ⟨hcuts, Nat.le_trans ?_ (Nat.le_trans hlast hle)⟩
    exact Nat.le_add_right _ _

/-- What is below what is approached, or in its place, stops where that does. -/
theorem Approach.Stops.children {a : Approach} (h : a.Stops lang cut) {depth : Nat}
    {parent : Option (Mark × Symbol)} {above : List Level}
    (hparent : ∀ mark symbol, parent = some (mark, symbol) → cut.cuts mark.stop
      ∧ (a.offset + a.tree.totalSize).bytes ≤ mark.stop.bytes) :
    ∀ b ∈ approaches a.tree.production depth parent above (withFollowing lang a.tree.children).1
      a.offset 0, b.Stops lang cut := by
  have hmap := map_fst_withFollowing lang a.tree.children
  refine stops_approaches hparent _ h.cuts (fun x hx => ?_) ?_ ?_
  · have hmem : x.1 ∈ a.tree.children := by
      rw [← hmap]
      exact List.mem_map_of_mem hx
    exact Tree.Every.of_mem h.consistent hmem
  · rw [hmap]
    exact h.aligned.children
  · rw [hmap]
    refine Nat.add_le_add_left ?_ a.offset.bytes
    by_cases hnil : a.tree.children = []
    · rw [hnil]
      exact Nat.zero_le _
    · rw [Tree.totalSizes_children lang h.consistent hnil]

end Query

/-- The places of a consistent tree end where the text may be cut. -/
theorem Tree.Consistent.stops_places {lang : Language} {cut : Cutting} {t : Tree}
    (h : t.Consistent lang) (haligned : t.Aligned cut.lies 0) (horigin : cut.cuts Extent.zero) :
    ∀ place ∈ t.places lang, place.Stops cut := by
  refine forall_collectPlaces (P := fun a => a.Stops lang cut) (fun a number ha => ?_)
    (fun a ha => ha.children ha.parent) (fun a number ha => ha.place number) (fun a ha => ?_) (by simp)
  · refine ha.children fun mark symbol heq => ?_
    obtain ⟨rfl, -⟩ := Prod.mk.inj (Option.some.inj heq)
    refine ⟨(ha.place number).own, ?_⟩
    rw [Approach.place]
    simp only [Tree.totalSize, Extent.add_assoc]
    exact Nat.le_refl _
  · obtain rfl := List.mem_singleton.mp ha
    exact ⟨h, haligned, horigin, by simp⟩

/-- Only the position before all text has the point at the origin. -/
theorem Query.Run.endsAtStart_of_at {text front : List Char} {mark : Mark}
    (h : Text.At text mark.stop front) (hpos : 0 < mark.stop.bytes) :
    Run.endsAtStart mark = false := by
  obtain ⟨-, hstop⟩ := h
  rw [hstop, Extent.bytes_ofText] at hpos
  have hpoint : (Extent.ofText front).point ≠ ⟨0, 0⟩ := by
    cases front using List.reverseRecOn with
    | nil => exact absurd hpos (Nat.lt_irrefl 0)
    | append_singleton before c =>
      rw [Extent.point_ofText]
      by_cases hc : c = '\n'
      · simp [hc]
      · have hsize := c.utf8Size_pos
        rw [Text.lastLine_concat before hc, Text.byteLength_append]
        simp only [Text.byteLength, ne_eq, Point.mk.injEq, not_and]
        omega
  simp [Run.endsAtStart, hstop, Nat.ne_of_gt hpos, hpoint]

/-- **In a tree that lies in a text no place over some text ends at the very start**, and neither does
the place above it. -/
theorem Tree.Parsed.not_endsAtStart {lang : Language} {text : List Char} {t : Tree}
    (h : t.Parsed lang (.atPositions text)) {place : Query.Place} (hplace : place ∈ t.places lang)
    (hpos : 0 < place.mark.stop.bytes) : Run.endsAtStart place.mark = false
      ∧ ∀ mark symbol, place.parent = some (mark, symbol) → Run.endsAtStart mark = false := by
  have hstops := h.paid.1.stops_places h.aligned ⟨[], Text.At.origin text⟩ place hplace
  obtain ⟨front, hat⟩ := hstops.own
  refine ⟨Run.endsAtStart_of_at hat hpos, fun mark symbol hparent => ?_⟩
  obtain ⟨⟨front', hat'⟩, hle⟩ := hstops.parent mark symbol hparent
  exact Run.endsAtStart_of_at hat' (Nat.lt_of_lt_of_le hpos hle)

end SyntaxKit
