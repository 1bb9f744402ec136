import SyntaxKit.Proofs.Tree.Cuts
import SyntaxKit.Proofs.Tree.Outline

/-!
# Where the nodes of a tree begin and end

Every visible node of a consistent tree begins and ends where leaves do.  So where a condition on
offsets allows the ends of all leaves, it allows both ends of every node that is listed, and of every
error that is reported.  And every node of a tree that lies where a text may be cut begins, with its
padding, at a place where it may be cut (`Tree.Consistent.forall_nodesWithin`).
-/

namespace SyntaxKit

/-- The error of a node is where the node is. -/
theorem SyntaxError.place_ofNode (lang : Language) (source : Source) (n : Node) :
    (ofNode lang source n).first = n.start.bytes ∧ (ofNode lang source n).last = n.stop.bytes
      ∧ (ofNode lang source n).start = n.start.point := by
  rw [ofNode]
  dsimp only
  split <;> exact ⟨rfl, rfl, rfl⟩

namespace Tree

variable (lang : Language) {p : Nat → Prop} {q : Nat → Extent × Extent → Prop}

/-- A subtree at its site is consistent and aligned. -/
def Site.Fits (lang : Language) (q : Nat → Extent × Extent → Prop) (s : Site) : Prop :=
  s.tree.Consistent lang ∧ s.tree.Aligned q s.offset.bytes

theorem fits_of_sited {sites : List Site} : ∀ {offset : Extent}, Sited offset sites →
    (∀ s ∈ sites, s.tree.Consistent lang) → AlignedAll q offset.bytes (sites.map (·.tree)) →
    ∀ s ∈ sites, s.Fits lang q := by
  induction sites with
  | nil => exact fun _ _ _ s hs => by simp at hs
  | cons s rest ih =>
    rintro offset ⟨rfl, hsited⟩ hconsistent haligned
    have hs := hconsistent s (List.mem_cons_self ..)
    obtain ⟨hfirst, hrest⟩ := (hs.alignedAll_cons _).mp haligned
    refine List.forall_mem_cons.mpr ⟨⟨hs, hfirst⟩, ih hsited (fun s' hs' => ?_) hrest⟩
    exact hconsistent s' (List.mem_cons_of_mem _ hs')

theorem Site.Fits.childSites {s : Site} (h : s.Fits lang q) (depth : Nat)
    (field : Option String) : ∀ s' ∈ childSites lang s.tree.production depth field s.tree.children
      s.offset 0, s'.Fits lang q := by
  have hmap := map_tree_childSites lang s.tree.production depth field s.tree.children s.offset 0
  refine fits_of_sited lang (sited_childSites lang _ _ _ _ _ _) (fun s' hs' => ?_) ?_
  · have hmem : s'.tree ∈ s.tree.children := by
      rw [← hmap]
      exact List.mem_map_of_mem hs'
    exact Every.of_mem h.1 hmem
  · rw [hmap]
    exact h.2.children

/-- What holds of the nodes of all sites that are reached holds of all nodes that are listed. -/
theorem forall_visit {P : Site → Prop} {Q : Node → Prop}
    (hbelow : ∀ s, P s → ∀ s' ∈ s.below lang, P s')
    (hinside : ∀ s, P s → ∀ s' ∈ s.inside lang, P s') (hnode : ∀ s, P s → Q s.node)
    (enter : Node → Bool) (sites : List Site) (seen : List Node) (hsites : ∀ s ∈ sites, P s)
    (hseen : ∀ n ∈ seen, Q n) : ∀ n ∈ visit lang enter sites seen, Q n := by
  induction sites, seen using visit.induct lang enter with
  | case1 seen =>
    rw [visit]
    simpa using hseen
  | case2 seen s rest h n henter ih =>
    obtain ⟨hs, hrest⟩ := List.forall_mem_cons.mp hsites
    rw [visit, if_pos h]
    simp only
    rw [if_pos henter]
    exact ih (List.forall_mem_append.mpr ⟨hbelow s hs, hrest⟩)
      (List.forall_mem_cons.mpr ⟨hnode s hs, hseen⟩)
  | case3 seen s rest h n henter ih =>
    obtain ⟨hs, hrest⟩ := List.forall_mem_cons.mp hsites
    rw [visit, if_pos h]
    simp only
    rw [if_neg henter]
    exact ih hrest (List.forall_mem_cons.mpr ⟨hnode s hs, hseen⟩)
  | case4 seen s rest h ih =>
    obtain ⟨hs, hrest⟩ := List.forall_mem_cons.mp hsites
    rw [visit, if_neg h]
    exact ih (List.forall_mem_append.mpr ⟨hinside s hs, hrest⟩) hseen

/-- Sites that follow each other from a place where the text may be cut are at such places. -/
theorem cuts_of_sited {cut : Cutting} {sites : List Site} : ∀ {offset : Extent},
    cut.cuts offset → Sited offset sites → (∀ s ∈ sites, s.Fits lang cut.lies) →
    ∀ s ∈ sites, cut.cuts s.offset := by
  induction sites with
  | nil => exact fun _ _ _ s hs => by simp at hs
  | cons s rest ih =>
    rintro offset hoffset ⟨rfl, hsited⟩ hfits
    obtain ⟨hs, hrest⟩ := List.forall_mem_cons.mp hfits
    exact List.forall_mem_cons.mpr ⟨hoffset, ih (hs.1.cuts_stop hoffset hs.2) hsited hrest⟩

/-- What holds of every node at a place where the text may be cut holds of every node that is
listed. -/
theorem Consistent.forall_nodesWithin {lang : Language} {cut : Cutting} {t : Tree}
    (h : t.Consistent lang) (haligned : t.Aligned cut.lies 0) (horigin : cut.cuts Extent.zero)
    {Q : Node → Prop} (hnode : ∀ s : Site, s.Fits lang cut.lies → cut.cuts s.offset → Q s.node)
    (enter : Node → Bool) : ∀ n ∈ t.nodesWithin lang enter, Q n := by
  have hchildren : ∀ s : Site, s.Fits lang cut.lies ∧ cut.cuts s.offset → ∀ depth field,
      ∀ s' ∈ childSites lang s.tree.production depth field s.tree.children s.offset 0,
        s'.Fits lang cut.lies ∧ cut.cuts s'.offset := by
    rintro s ⟨hfits, hcuts⟩ depth field s' hs'
    have hall := hfits.childSites lang depth field
    exact ⟨hall s' hs', cuts_of_sited lang hcuts (sited_childSites lang _ _ _ _ _ _) hall s' hs'⟩
  have hroot : (⟨t, Extent.zero, 0, none⟩ : Site).Fits lang cut.lies := ⟨h, haligned⟩
  have hfirst := hnode _ hroot horigin
  rw [nodesWithin]
  split
  · exact forall_visit lang (fun s hs => hchildren s hs _ _) (fun s hs => hchildren s hs _ _)
      (fun s hs => hnode s hs.1 hs.2) enter _ _ (hchildren _ ⟨hroot, horigin⟩ _ _) (by simpa using hfirst)
  · simpa using hfirst

/-- A stretch whose ends are allowed. -/
def Stretch (p : Nat → Prop) (start stop : Extent) : Prop :=
  start.bytes ≤ stop.bytes ∧ p start.bytes ∧ p stop.bytes

/-- The text of a subtree lies between two cuts. -/
theorem Consistent.stretch {lang : Language} {t : Tree} {offset : Extent} (h : t.Consistent lang)
    (haligned : t.Aligned (Ends p) offset.bytes) :
    Stretch p (offset + t.padding) (offset + t.padding + t.size) := by
  obtain ⟨hstart, hstop⟩ := haligned.ends h
  refine ⟨Nat.le_add_right _ _, hstart, ?_⟩
  rwa [totalSize, Extent.bytes_add, ← Nat.add_assoc] at hstop

/-- **Every node of a consistent tree begins and ends where its leaves may.** -/
theorem Consistent.stretch_nodesWithin {lang : Language} {t : Tree} (h : t.Consistent lang)
    (haligned : t.Aligned (Ends p) 0) (enter : Node → Bool) :
    ∀ n ∈ t.nodesWithin lang enter, Stretch p n.start n.stop := by
  have hfits : (⟨t, Extent.zero, 0, none⟩ : Site).Fits lang (Ends p) := ⟨h, haligned⟩
  have hnode : ∀ s : Site, s.Fits lang (Ends p) → Stretch p s.node.start s.node.stop :=
    fun s hs => hs.1.stretch hs.2
  have hroot := hnode _ hfits
  rw [nodesWithin]
  split
  · exact forall_visit lang (fun s hs => hs.childSites lang _ _) (fun s hs => hs.childSites lang _ _)
      hnode enter _ _ (hfits.childSites lang _ _) (by simpa using hroot)
  · simpa using hroot

/-- An error that is reported is that of a node that is listed. -/
theorem exists_node_of_mem_syntaxErrors {t : Tree} {text : List Char} {e : SyntaxError}
    (he : e ∈ t.syntaxErrors lang text) : ∃ enter, ∃ n ∈ t.nodesWithin lang enter,
      SyntaxError.ofNode lang (Source.ofText text) n = e := by
  have hmem : ∃ n ∈ t.problems lang, SyntaxError.ofNode lang (Source.ofText text) n = e := by
    rw [syntaxErrors] at he
    split at he
    · simp at he
    · exact List.mem_map.mp he
  obtain ⟨n, hn, he⟩ := hmem
  rw [problems_eq_filter] at hn
  split at hn
  · exact ⟨_, n, (List.mem_filter.mp hn).1, he⟩
  · simp at hn

/-- **So does every error that is reported.** -/
theorem Consistent.stretch_syntaxErrors {lang : Language} {t : Tree} (h : t.Consistent lang)
    (haligned : t.Aligned (Ends p) 0) (text : List Char) :
    ∀ e ∈ t.syntaxErrors lang text, e.first ≤ e.last ∧ p e.first ∧ p e.last := by
  intro e he
  obtain ⟨enter, n, hn, rfl⟩ := exists_node_of_mem_syntaxErrors lang he
  obtain ⟨hfirst, hlast, -⟩ := SyntaxError.place_ofNode lang (Source.ofText text) n
  rw [hfirst, hlast]
  exact h.stretch_nodesWithin haligned enter n hn

end Tree

end SyntaxKit
