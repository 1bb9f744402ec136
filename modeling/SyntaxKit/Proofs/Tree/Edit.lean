import SyntaxKit.Proofs.Tree.Cuts
import SyntaxKit.Tree.Edit

/-!
# Where an edit moves the leaves of a tree

An edit replaces a stretch of the text.  A leaf before the stretch stays where it is, and one behind it
moves with the text behind the stretch; a leaf without text may also be inside of the stretch, and comes
to lie where the stretch ends.  `Change.Lands` says that wherever the leaves of a tree come to lie in
this way, they may lie.

Marking the edit in a tree changes the width of every node on the way to the stretch so that the
subtrees that are not marked come to lie where their text is now: `Change.bytes_edit` says how wide a
tree becomes, and `Change.placed_distribute` that the parts of the change that are handed on to the
children land for each child where it comes to begin.  So what is not marked after an edit is
consistent and aligned at its new place (`Tree.Consistent.edit`).
-/

namespace SyntaxKit

namespace Change

variable {c : Change} {q : Nat → Extent × Extent → Prop}

/-- Neither end of the stretch that is replaced, the old one and the new one, is before its
beginning. -/
structure Ordered (c : Change) : Prop where
  old : c.start.bytes ≤ c.oldStop.bytes
  new : c.start.bytes ≤ c.newStop.bytes

theorem Ordered.shift (h : c.Ordered) (left : Extent) : (c.shift left).Ordered where
  old := by
    have := h.old
    simp [Change.shift]
    omega
  new := by
    have := h.new
    simp [Change.shift]
    omega

/-- How many bytes a tree of some width has after a change. -/
def widthAfter (c : Change) (width : Nat) : Nat :=
  if c.start.bytes < width ∨ c.start.bytes = width ∧ c.oldStop.bytes = c.start.bytes then
    c.newStop.bytes + (width - c.oldStop.bytes)
  else width

theorem widthAfter_of_reaches {width : Nat} (h : c.start.bytes < width
      ∨ c.start.bytes = width ∧ c.oldStop.bytes = c.start.bytes) :
    c.widthAfter width = c.newStop.bytes + (width - c.oldStop.bytes) := if_pos h

theorem widthAfter_of_not_reaches {width : Nat} (h : ¬(c.start.bytes < width
      ∨ c.start.bytes = width ∧ c.oldStop.bytes = c.start.bytes)) :
    c.widthAfter width = width := if_neg h

theorem bytes_resize (h : c.Ordered) (padding size : Extent) :
    ((c.resize padding size).1 + (c.resize padding size).2).bytes
      = c.widthAfter (padding.bytes + size.bytes) := by
  obtain ⟨hold, hnew⟩ := h
  rw [resize]
  split
  · rw [widthAfter_of_reaches (by omega)]
    simp only [Extent.bytes_add, Extent.bytes_sub]
    omega
  · split
    · rw [widthAfter_of_reaches (by omega)]
      simp only [Extent.bytes_add, Extent.bytes_monus, Extent.bytes_sub]
      omega
    · split
      · next hreach =>
        simp only [isInsertion, Bool.or_eq_true, Bool.and_eq_true, decide_eq_true_eq,
          beq_iff_eq] at hreach
        rw [Extent.bytes_add] at hreach
        rw [widthAfter_of_reaches (by omega)]
        simp only [Extent.bytes_add, Extent.bytes_sub, Extent.bytes_monus]
        omega
      · next hreach =>
        simp only [isInsertion, Bool.or_eq_true, Bool.and_eq_true, decide_eq_true_eq,
          beq_iff_eq] at hreach
        rw [Extent.bytes_add] at hreach
        rw [widthAfter_of_not_reaches (by omega), Extent.bytes_add]

/-- What a change misses keeps its width. -/
theorem widthAfter_of_misses {t : Tree} (h : c.misses t = true) :
    c.widthAfter t.totalSize.bytes = t.totalSize.bytes := by
  simp only [misses, isVoid, Bool.or_eq_true, Bool.and_eq_true, decide_eq_true_eq,
    beq_iff_eq] at h
  rw [widthAfter]
  split <;> omega

/-- **How wide a tree is after an edit.** -/
theorem bytes_edit (h : c.Ordered) (t : Tree) :
    (t.edit c).totalSize.bytes = c.widthAfter t.totalSize.bytes := by
  rw [Tree.edit, Tree.rebuild_eq]
  by_cases hmiss : c.misses t = true
  · have hstep : c.step t = .done t := by cases t <;> exact if_pos hmiss
    rw [hstep, widthAfter_of_misses hmiss]
  · cases t with
    | token k =>
      rw [step, if_neg hmiss]
      exact bytes_resize h k.padding k.size
    | branch b cs =>
      rw [step, if_neg hmiss]
      exact bytes_resize h b.padding b.size

/-! ## Where leaves come to lie -/

/-- Wherever a leaf of a tree that now begins at an offset comes to lie, it may lie. -/
def Moves (c : Change) (q : Nat → Extent × Extent → Prop) (offset y : Nat) (s : Extent × Extent) :
    Prop :=
  (y + (s.1 + s.2).bytes ≤ c.start.bytes → q (offset + y) s)
    ∧ (c.start.bytes ≤ y → c.oldStop.bytes ≤ y ∨ (s.1 + s.2).bytes = 0 →
      q (offset + c.newStop.bytes + (y - c.oldStop.bytes)) s)

/-- Wherever the leaves of a tree that now begins at an offset come to lie, they may lie. -/
def Lands (c : Change) (q : Nat → Extent × Extent → Prop) (offset : Nat) (t : Tree) : Prop :=
  t.Aligned (c.Moves q offset) 0

/-- What a change does to a child: it is as wide, and stays aligned, if it is not handed on. -/
def Settles (q : Nat → Extent × Extent → Prop) (offset : Nat) (t : Tree) : Option Change → Prop
  | none => t.Aligned q offset
  | some c => c.Ordered ∧ c.Lands q offset t

/-- How many bytes a child has after the change that is handed on to it. -/
def widthUnder (t : Tree) : Option Change → Nat
  | none => t.totalSize.bytes
  | some c => c.widthAfter t.totalSize.bytes

/-- How many bytes children have after the changes that are handed on to them. -/
def widthsUnder : List (Tree × Option Change) → Nat
  | [] => 0
  | (t, label) :: rest => widthUnder t label + widthsUnder rest

/-- The changes handed on to children settle them one after the other. -/
def Placed (q : Nat → Extent × Extent → Prop) : Nat → List (Tree × Option Change) → Prop
  | _, [] => True
  | offset, (t, label) :: rest =>
    Settles q offset t label ∧ Placed q (offset + widthUnder t label) rest

variable {lang : Language} {offset : Nat}

/-- Children to which nothing is handed on. -/
theorem placed_map_none {ts : List Tree} (hts : ∀ t ∈ ts, t.Consistent lang)
    (h : Tree.AlignedAll q offset ts) :
    Placed q offset (ts.map (·, none))
      ∧ widthsUnder (ts.map (·, none)) = (Tree.totalSizes ts).bytes := by
  induction ts generalizing offset with
  | nil => exact ⟨trivial, rfl⟩
  | cons t ts ih =>
    obtain ⟨ht, hrest⟩ := ((hts t (List.mem_cons_self ..)).alignedAll_cons ts).mp h
    obtain ⟨hplaced, hwidths⟩ := ih (fun u hu => hts u (List.mem_cons_of_mem _ hu)) hrest
    exact ⟨⟨ht, hplaced⟩, congrArg (t.totalSize.bytes + ·) hwidths⟩

/-- A child that ends before the stretch, of which it has seen something, only gets its mark. -/
theorem settles_void {t : Tree} (ht : t.Consistent lang) (h : t.Aligned q offset)
    (own : Change) (hend : t.totalSize.bytes ≤ own.start.bytes) :
    Settles q offset t (some { own with oldStop := own.start, newStop := own.start })
      ∧ widthUnder t (some { own with oldStop := own.start, newStop := own.start })
        = t.totalSize.bytes := by
  refine ⟨⟨⟨Nat.le_refl _, Nat.le_refl _⟩, h.move ht fun y s _ hs => ?_⟩, ?_⟩
  · rw [Nat.zero_add]
    refine ⟨fun _ => hs, fun hle _ => ?_⟩
    simp only at hle ⊢
    have heq : offset + own.start.bytes + (y - own.start.bytes) = offset + y := by omega
    rwa [heq]
  · simp only [widthUnder, widthAfter]
    split <;> omega

/-- A leaf may lie where it comes to lie when nothing is left of the stretch. -/
def Closes (c : Change) (q : Nat → Extent × Extent → Prop) (offset y : Nat) (s : Extent × Extent) :
    Prop :=
  c.oldStop.bytes ≤ y ∨ (s.1 + s.2).bytes = 0 → q (offset + (y - c.oldStop.bytes)) s

/-- Behind the subtree that takes in the inserted text the others only shrink, and move up to where
the stretch now ends. -/
theorem placed_distribute_behind (offset : Nat) {ts : List Tree}
    (hts : ∀ t ∈ ts, t.Consistent lang) :
    ∀ (c : Change) (left : Extent) (isFirst : Bool), c.newStop.bytes = c.start.bytes →
      c.start.bytes ≤ c.oldStop.bytes → c.start.bytes ≤ left.bytes →
      Tree.AlignedAll (c.Closes q offset) left.bytes ts →
      Placed q (offset + (left.bytes - c.oldStop.bytes)) (c.distribute ts left isFirst)
        ∧ (left.bytes - c.oldStop.bytes) + widthsUnder (c.distribute ts left isFirst)
          = left.bytes + (Tree.totalSizes ts).bytes - c.oldStop.bytes := by
  induction ts with
  | nil => exact fun _ _ _ _ _ _ _ => ⟨trivial, rfl⟩
  | cons t ts ih =>
    intro c left isFirst hnew hold hleft hleaves
    have ht := hts t (List.mem_cons_self ..)
    have hrest : ∀ u ∈ ts, u.Consistent lang := fun u hu => hts u (List.mem_cons_of_mem _ hu)
    obtain ⟨hown, hothers⟩ := (ht.alignedAll_cons ts).mp hleaves
    have hright : (left + t.totalSize).bytes = left.bytes + t.totalSize.bytes := rfl
    -- the others, if they are reached, begin behind this child
    have hbehind : ∀ c' : Change, c'.newStop.bytes = c.start.bytes → c'.start = c.start →
        c'.oldStop = c.oldStop → ∀ width, left.bytes - c.oldStop.bytes + width
          = left.bytes + t.totalSize.bytes - c.oldStop.bytes →
        Placed q (offset + (left.bytes - c.oldStop.bytes) + width)
            (c'.distribute ts (left + t.totalSize) false)
          ∧ left.bytes - c.oldStop.bytes + (width
              + widthsUnder (c'.distribute ts (left + t.totalSize) false))
            = left.bytes + (Tree.totalSizes (t :: ts)).bytes - c.oldStop.bytes := by
      intro c' hnew' hstart' hold' width hwidth
      have hgo := ih hrest c' (left + t.totalSize) false (by rw [hnew', hstart'])
        (by rw [hstart', hold']; exact hold) (by rw [hstart', hright]; omega)
        (hothers.move fun y s hs => by rwa [Closes, hold'])
      rw [hold', hright] at hgo
      rw [Nat.add_assoc, hwidth, ← Nat.add_assoc, hwidth, Tree.totalSizes_cons, Extent.bytes_add,
        ← Nat.add_assoc]
      exact hgo
    rw [distribute]
    simp only
    split
    · -- the child would have to end before the stretch
      next hmiss => omega
    · split
      · next hpast =>
        simp only [Bool.or_eq_true, Bool.and_eq_true, decide_eq_true_eq, beq_iff_eq] at hpast
        have hall : Tree.AlignedAll q (offset + (left.bytes - c.oldStop.bytes)) (t :: ts) := by
          refine hleaves.move fun y s hs => ?_
          have heq : offset + (left.bytes - c.oldStop.bytes) + y
              = offset + (left.bytes + y - c.oldStop.bytes) := by omega
          rw [heq]
          exact hs (.inl (by omega))
        obtain ⟨hplaced, hwidths⟩ := placed_map_none hts hall
        exact ⟨hplaced, by rw [hwidths]; omega⟩
      · split
        · obtain ⟨hplaced, hwidths⟩ := hbehind { c with newStop := c.start } rfl rfl rfl
            ((c.shift left).widthAfter t.totalSize.bytes) (by
              simp only [widthAfter, Change.shift, Extent.bytes_monus]
              split <;> omega)
          refine ⟨⟨⟨(Ordered.mk hold (Nat.le_of_eq hnew.symm)).shift left, ?_⟩, hplaced⟩, hwidths⟩
          refine hown.move ht fun y s _ hs => ?_
          rw [Nat.zero_add]
          simp only [Moves, Change.shift, Extent.bytes_monus, hnew]
          refine ⟨fun hstart => ?_, fun _ hplace => ?_⟩
          · -- a leaf without text where the stretch begins
            have heq : offset + (left.bytes - c.oldStop.bytes) + y
                = offset + (left.bytes + y - c.oldStop.bytes) := by omega
            rw [heq]
            exact hs (.inr (by omega))
          · have heq : offset + (left.bytes - c.oldStop.bytes) + (c.start.bytes - left.bytes)
                  + (y - (c.oldStop.bytes - left.bytes))
                = offset + (left.bytes + y - c.oldStop.bytes) := by omega
            rw [heq]
            exact hs (hplace.imp_left fun hle => by omega)
        · next hmiss =>
          -- an empty child, at the beginning of the stretch
          simp only [Bool.or_eq_true, Bool.and_eq_true, decide_eq_true_eq, beq_iff_eq,
            isInsertion, hright] at hmiss
          have halign : t.Aligned q (offset + (left.bytes - c.oldStop.bytes)) := by
            refine hown.move ht fun y s hle hs => ?_
            have heq : offset + (left.bytes - c.oldStop.bytes) + y
                = offset + (left.bytes + y - c.oldStop.bytes) := by omega
            rw [heq]
            exact hs (.inr (by omega))
          obtain ⟨hsettles, hwidth⟩ := settles_void ht halign (c.shift left) (by
            simp only [Change.shift, Extent.bytes_monus]
            omega)
          obtain ⟨hplaced, hwidths⟩ := hbehind c hnew rfl rfl t.totalSize.bytes (by omega)
          refine ⟨⟨hsettles, ?_⟩, ?_⟩
          · rw [hwidth]
            exact hplaced
          · rw [widthsUnder, hwidth]
            exact hwidths

/-- **Handing a change on to the children settles each of them where it comes to begin**, and
together they become as wide as the change makes their node. -/
theorem placed_distribute {ts : List Tree} (hts : ∀ t ∈ ts, t.Consistent lang) :
    ∀ (c : Change) (left : Extent) (isFirst : Bool), c.Ordered → left.bytes ≤ c.start.bytes →
      (isFirst = true ∧ ts ≠ [] ∨ left.bytes < c.start.bytes
        ∨ c.start.bytes < c.oldStop.bytes) →
      Tree.AlignedAll (c.Moves q offset) left.bytes ts →
      Placed q (offset + left.bytes) (c.distribute ts left isFirst)
        ∧ left.bytes + widthsUnder (c.distribute ts left isFirst)
          = c.widthAfter (left.bytes + (Tree.totalSizes ts).bytes) := by
  induction ts with
  | nil =>
    intro c left isFirst hc hleft hbegun _
    refine ⟨trivial, ?_⟩
    simp only [ne_eq, not_true_eq_false, and_false, false_or] at hbegun
    rw [widthAfter_of_not_reaches]
    · rfl
    · simp only [Tree.totalSizes_nil, Extent.bytes_zero]
      omega
  | cons t ts ih =>
    intro c left isFirst hc hleft hbegun hleaves
    obtain ⟨hold, hnew⟩ := hc
    have ht := hts t (List.mem_cons_self ..)
    have hrest : ∀ u ∈ ts, u.Consistent lang := fun u hu => hts u (List.mem_cons_of_mem _ hu)
    obtain ⟨hown, hothers⟩ := (ht.alignedAll_cons ts).mp hleaves
    have hright : (left + t.totalSize).bytes = left.bytes + t.totalSize.bytes := rfl
    have halign : left.bytes + t.totalSize.bytes ≤ c.start.bytes →
        t.Aligned q (offset + left.bytes) := by
      intro hend
      refine hown.move ht fun y s hle hs => ?_
      rw [Nat.add_assoc]
      exact hs.1 (by omega)
    -- the others, if nothing has been inserted so far
    have hbefore : left.bytes + t.totalSize.bytes ≤ c.start.bytes →
        (left.bytes + t.totalSize.bytes < c.start.bytes ∨ c.start.bytes < c.oldStop.bytes) →
        Placed q (offset + left.bytes + t.totalSize.bytes)
            (c.distribute ts (left + t.totalSize) false)
          ∧ left.bytes + (t.totalSize.bytes
              + widthsUnder (c.distribute ts (left + t.totalSize) false))
            = c.widthAfter (left.bytes + (Tree.totalSizes (t :: ts)).bytes) := by
      intro hend hgoes
      have hgo := ih hrest c (left + t.totalSize) false ⟨hold, hnew⟩ (by rw [hright]; exact hend)
        (.inr (by rw [hright]; exact hgoes)) hothers
      rw [hright] at hgo
      rw [Nat.add_assoc, ← Nat.add_assoc left.bytes, Tree.totalSizes_cons, Extent.bytes_add,
        ← Nat.add_assoc left.bytes]
      exact hgo
    rw [distribute]
    simp only
    split
    · next hmiss =>
      rw [hright] at hmiss
      obtain ⟨hplaced, hwidths⟩ := hbefore (by omega) (.inl (by omega))
      exact ⟨⟨halign (by omega), hplaced⟩, hwidths⟩
    · split
      · next hpast =>
        -- the stretch would have to end before it begins
        simp only [Bool.or_eq_true, Bool.and_eq_true, decide_eq_true_eq, beq_iff_eq,
          Bool.not_eq_true'] at hpast
        obtain hlt | ⟨⟨heq, -⟩, hfirst⟩ := hpast
        · omega
        · rw [hfirst] at hbegun
          simp only [Bool.false_eq_true, false_and, false_or] at hbegun
          omega
      · split
        · next hreach =>
          -- the child takes in what is inserted
          simp only [Bool.or_eq_true, Bool.and_eq_true, decide_eq_true_eq, beq_iff_eq,
            isInsertion, hright] at hreach
          have hwidth : (c.shift left).widthAfter t.totalSize.bytes
              = c.newStop.bytes - left.bytes
                + (t.totalSize.bytes - (c.oldStop.bytes - left.bytes)) := by
            rw [widthAfter_of_reaches]
            · simp [Change.shift]
            · simp only [Change.shift, Extent.bytes_monus]
              omega
          obtain ⟨hplaced, hwidths⟩ := placed_distribute_behind
            (offset + c.newStop.bytes) hrest { c with newStop := c.start }
            (left + t.totalSize) false rfl hold (by rw [hright]; simp only; omega)
            (hothers.move fun y s hs hplace => hs.2 (by omega) hplace)
          simp only [hright] at hplaced hwidths
          refine ⟨⟨⟨(Ordered.mk hold hnew).shift left, ?_⟩, ?_⟩, ?_⟩
          · refine hown.move ht fun y s _ hs => ?_
            obtain ⟨hlow, hhigh⟩ := hs
            rw [Nat.zero_add]
            simp only [Moves, Change.shift, Extent.bytes_monus]
            refine ⟨fun hstart => ?_, fun hstart hplace => ?_⟩
            · rw [Nat.add_assoc]
              exact hlow (by omega)
            · have heq : offset + left.bytes + (c.newStop.bytes - left.bytes)
                    + (y - (c.oldStop.bytes - left.bytes))
                  = offset + c.newStop.bytes + (left.bytes + y - c.oldStop.bytes) := by omega
              rw [heq]
              exact hhigh (by omega) (hplace.imp_left fun hle => by omega)
          · have heq : offset + left.bytes + (c.shift left).widthAfter t.totalSize.bytes
                = offset + c.newStop.bytes
                  + (left.bytes + t.totalSize.bytes - c.oldStop.bytes) := by
              rw [hwidth]
              omega
            rw [widthUnder, heq]
            exact hplaced
          · rw [widthsUnder, widthUnder, hwidth, widthAfter_of_reaches, Tree.totalSizes_cons,
              Extent.bytes_add]
            · omega
            · rw [Tree.totalSizes_cons, Extent.bytes_add]
              omega
        · next hreach =>
          simp only [Bool.or_eq_true, Bool.and_eq_true, decide_eq_true_eq, beq_iff_eq,
            isInsertion, hright] at hreach
          obtain ⟨hsettles, hwidth⟩ := settles_void ht (halign (by omega)) (c.shift left) (by
            simp only [Change.shift, Extent.bytes_monus]
            omega)
          obtain ⟨hplaced, hwidths⟩ := hbefore (by omega) (by omega)
          refine ⟨⟨hsettles, ?_⟩, ?_⟩
          · rw [hwidth]
            exact hplaced
          · rw [widthsUnder, hwidth]
            exact hwidths

end Change

namespace Tree

variable {lang : Language} {q : Nat → Extent × Extent → Prop}

/-! ## What may be taken over -/

/-- After an edit, in a tree that now begins at an offset, what is not marked as changed is
consistent and aligned where it begins, and every node is as wide as its children. -/
inductive Spare (lang : Language) (q : Nat → Extent × Extent → Prop) :
    Nat → Tree → Prop
  | token {offset : Nat} {k : Token}
    (root : k.changed = false → (token k).Consistent lang ∧ (token k).Aligned q offset) :
    Spare lang q offset (token k)
  | branch {offset : Nat} {b : Branch} {cs : List Tree}
    (root : b.changed = false → (branch b cs).Consistent lang ∧ (branch b cs).Aligned q offset)
    (total : cs ≠ [] → (totalSizes cs).bytes = (branch b cs).totalSize.bytes)
    (children : ∀ front c back, cs = front ++ c :: back →
      Spare lang q (offset + (totalSizes front).bytes) c) : Spare lang q offset (branch b cs)

theorem Spare.unchanged {offset : Nat} {t : Tree} (h : t.Spare lang q offset)
    (hchanged : t.isChanged = false) : t.Consistent lang ∧ t.Aligned q offset := by
  cases h with
  | token root => exact root hchanged
  | branch root total children => exact root hchanged

/-- The children of a node together are as wide as the node, and spare each where it begins. -/
theorem Spare.children {offset : Nat} {t : Tree} (h : t.Spare lang q offset)
    (hne : t.children ≠ []) : (totalSizes t.children).bytes = t.totalSize.bytes
      ∧ EachAt (Spare lang q) offset t.children := by
  cases h with
  | token root => exact absurd rfl hne
  | branch root total children => exact ⟨total hne, eachAt_iff.mpr children⟩

/-- In a tree that is consistent and aligned everything may be taken over. -/
theorem Consistent.spare {offset : Nat} {t : Tree} (h : t.Consistent lang)
    (haligned : t.Aligned q offset) : t.Spare lang q offset := by
  induction h generalizing offset with
  | token root => exact .token fun _ => ⟨.token root, haligned⟩
  | @branch b cs root children ih =>
    refine .branch (fun _ => ⟨.branch root children, haligned⟩) (fun _ => ?_) fun front c back hcs => ?_
    · rw [root.fits.totalSize]
    · have hc : c ∈ cs := by simp [hcs]
      exact ih c hc (eachAt_iff.mp (haligned.children.eachAt children) front c back hcs)

/-- Children that have been settled are spare one after the other. -/
theorem eachAt_spare_of_placed {offset : Nat} {labelled : List (Tree × Option Change)}
    (h : Change.Placed q offset labelled)
    (hchildren : ∀ x ∈ labelled, x.1.Consistent lang ∧ ∀ (c : Change) (offset : Nat), c.Ordered →
      c.Lands q offset x.1 → (x.1.edit c).Spare lang q offset) :
    EachAt (Spare lang q) offset (labelled.map (rebuildChild Change.step))
      ∧ (totalSizes (labelled.map (rebuildChild Change.step))).bytes
        = Change.widthsUnder labelled := by
  induction labelled generalizing offset with
  | nil => exact ⟨trivial, rfl⟩
  | cons x rest ih =>
    obtain ⟨t, label⟩ := x
    obtain ⟨hsettles, hrest⟩ := h
    obtain ⟨ht, hedit⟩ := hchildren _ (List.mem_cons_self ..)
    have hfirst : (rebuildChild Change.step (t, label)).Spare lang q offset
        ∧ (rebuildChild Change.step (t, label)).totalSize.bytes = Change.widthUnder t label := by
      cases label with
      | none => exact ⟨ht.spare hsettles, rfl⟩
      | some c => exact ⟨hedit c offset hsettles.1 hsettles.2, Change.bytes_edit hsettles.1 t⟩
    obtain ⟨hspare, htotal⟩ := @ih (offset + Change.widthUnder t label) hrest
      fun y hy => hchildren y (List.mem_cons_of_mem _ hy)
    refine ⟨⟨hfirst.1, ?_⟩, ?_⟩
    · rw [hfirst.2]
      exact hspare
    · rw [List.map_cons, totalSizes_cons, Extent.bytes_add, hfirst.2, htotal]
      rfl

theorem mem_of_mem_distribute {c : Change} {ts : List Tree} {left : Extent} {isFirst : Bool}
    {x : Tree × Option Change} (h : x ∈ c.distribute ts left isFirst) : x.1 ∈ ts := by
  have hmem : x.1 ∈ (c.distribute ts left isFirst).map (·.1) := List.mem_map_of_mem h
  rwa [Change.map_fst_distribute] at hmem

/-- A tree that a change misses stays aligned where it begins. -/
theorem Consistent.aligned_of_misses {t : Tree} (h : t.Consistent lang) {c : Change} {offset : Nat}
    (hmiss : c.misses t = true) (hlands : c.Lands q offset t) : t.Aligned q offset := by
  refine Aligned.move hlands h fun y s hle hs => ?_
  simp only [Change.misses, Bool.or_eq_true, Bool.and_eq_true, decide_eq_true_eq,
    beq_iff_eq] at hmiss
  rw [Nat.zero_add] at hs
  exact hs.1 (by omega)

/-- **Marking an edit leaves what is not marked consistent, and aligned where it comes to begin.** -/
theorem Consistent.edit {t : Tree} (h : t.Consistent lang) {c : Change} {offset : Nat}
    (hc : c.Ordered) (hlands : c.Lands q offset t) : (t.edit c).Spare lang q offset := by
  induction h generalizing c offset with
  | @token k root =>
    rw [Tree.edit, rebuild_eq]
    by_cases hmiss : c.misses (token k) = true
    · have hk : (token k).Consistent lang := .token root
      rw [Change.step, if_pos hmiss]
      exact hk.spare (hk.aligned_of_misses hmiss hlands)
    · rw [Change.step, if_neg hmiss]
      exact .token fun hchanged => absurd hchanged (by simp)
  | @branch b cs root children ih =>
    have ht : (branch b cs).Consistent lang := .branch root children
    have hwidth := Change.bytes_edit hc (branch b cs)
    rw [Tree.edit, rebuild_eq] at hwidth ⊢
    by_cases hmiss : c.misses (branch b cs) = true
    · rw [Change.step, if_pos hmiss]
      exact ht.spare (ht.aligned_of_misses hmiss hlands)
    · rw [Change.step, if_neg hmiss] at hwidth ⊢
      simp only at hwidth ⊢
      by_cases hcs : cs = []
      · subst hcs
        exact .branch (fun hchanged => absurd hchanged (by simp)) (fun hne => absurd rfl hne)
          fun front d back hd => by simp [Change.distribute] at hd
      · -- the change lands for the children from left to right
        have hleaves : AlignedAll (c.Moves q offset) Extent.zero.bytes cs := by
          rw [AlignedAll, ← spans_branch b hcs]
          exact hlands
        obtain ⟨hplaced, htotal⟩ := Change.placed_distribute children c
          Extent.zero true hc (Nat.zero_le _) (.inl ⟨rfl, hcs⟩) hleaves
        obtain ⟨hspare, hwidths⟩ := @eachAt_spare_of_placed lang q _ _ hplaced fun x hx =>
          ⟨children _ (mem_of_mem_distribute hx), fun c' offset' hc' hlands' =>
            ih _ (mem_of_mem_distribute hx) hc' hlands'⟩
        refine .branch (fun hchanged => absurd hchanged (by simp)) (fun _ => ?_)
          (eachAt_iff.mp hspare)
        rw [hwidths, hwidth, root.fits.totalSize]
        simpa using htotal

end Tree

end SyntaxKit
