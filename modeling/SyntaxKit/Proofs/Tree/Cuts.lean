import SyntaxKit.Parse.Reuse
import SyntaxKit.Proofs.Tree.Consistent

/-!
# Where the leaves of a tree lie

The leaves of a tree follow each other, so each of them lies at an offset that is determined by those
before it.  A tree is aligned at an offset if all of its leaves lie where a condition allows them
(`Tree.Aligned`); in a consistent tree every node begins and ends where a leaf does, since its size is
that of its leaves.  A `Cutting` is such a condition together with the positions at which it lets one
leaf end and another begin, so that what is aligned at such a position ends at one
(`Tree.Consistent.cuts_stop`).
-/

namespace SyntaxKit

namespace Tree

variable {lang : Language}

/-! ## Leaves that follow each other -/

/-- Leaves that follow each other, the first of which begins at an offset, lie where they may; a leaf
is given by its padding and its size. -/
def SpansLie (q : Nat → Extent × Extent → Prop) : Nat → List (Extent × Extent) → Prop
  | _, [] => True
  | offset, s :: rest => q offset s ∧ SpansLie q (offset + (s.1 + s.2).bytes) rest

section Spans

variable {q q' : Nat → Extent × Extent → Prop}

theorem spanTotal_cons (s : Extent × Extent) (rest : List (Extent × Extent)) :
    spanTotal (s :: rest) = s.1 + s.2 + spanTotal rest := rfl

theorem spansLie_append {s s' : List (Extent × Extent)} {offset : Nat} :
    SpansLie q offset (s ++ s')
      ↔ SpansLie q offset s ∧ SpansLie q (offset + (spanTotal s).bytes) s' := by
  induction s generalizing offset with
  | nil => simp [SpansLie, spanTotal]
  | cons x s ih =>
    simp only [List.cons_append, SpansLie, ih, spanTotal_cons, Extent.bytes_add, Nat.add_assoc,
      and_assoc]

/-- Leaves that are moved lie where they may if that holds of each of them. -/
theorem SpansLie.move {offset offset' : Nat} {spans : List (Extent × Extent)}
    (h : SpansLie q offset spans)
    (hmove : ∀ y s, y + (s.1 + s.2).bytes ≤ (spanTotal spans).bytes → q (offset + y) s →
      q' (offset' + y) s) : SpansLie q' offset' spans := by
  induction spans generalizing offset offset' with
  | nil => trivial
  | cons x rest ih =>
    obtain ⟨hfirst, hrest⟩ := h
    rw [spanTotal_cons, Extent.bytes_add] at hmove
    refine ⟨hmove 0 x (by omega) hfirst, ih hrest fun y s hle hs => ?_⟩
    rw [Nat.add_assoc] at hs ⊢
    exact hmove _ s (by omega) hs

end Spans

/-! ## Alignment -/

/-- The leaves of trees that follow each other. -/
def spansOf (ts : List Tree) : List (Extent × Extent) :=
  flattenAll (fun k => [(k.padding, k.size)]) (fun _ => [(Extent.zero, Extent.zero)]) ts

/-- All leaves of a tree that begins at an offset lie where they may. -/
def Aligned (q : Nat → Extent × Extent → Prop) (offset : Nat) (t : Tree) : Prop :=
  SpansLie q offset t.spans

/-- All leaves of trees that follow each other, the first of which begins at an offset, lie where they
may. -/
def AlignedAll (q : Nat → Extent × Extent → Prop) (offset : Nat) (ts : List Tree) : Prop :=
  SpansLie q offset (spansOf ts)

theorem spans_token (k : Token) : (token k).spans = [(k.padding, k.size)] := flatten_token _ _ k

theorem spans_branch_nil (b : Branch) : (branch b []).spans = [(Extent.zero, Extent.zero)] := by
  simp [spans]

theorem spans_branch {cs : List Tree} (b : Branch) (h : cs ≠ []) :
    (branch b cs).spans = spansOf cs := flatten_branch _ _ _ h

theorem Consistent.spanTotal_spans {t : Tree} (h : t.Consistent lang) :
    spanTotal t.spans = t.totalSize := by
  obtain ⟨size, rest, hspans, hsize⟩ := h.spans_eq
  rw [hspans, spanTotal_cons, totalSize, hsize, Extent.add_assoc]

section Aligned

variable {q q' : Nat → Extent × Extent → Prop} {offset offset' : Nat}

theorem alignedAll_nil : AlignedAll q offset [] := by simp [AlignedAll, spansOf, SpansLie]

theorem Consistent.alignedAll_cons {t : Tree} (h : t.Consistent lang) (ts : List Tree) :
    AlignedAll q offset (t :: ts)
      ↔ t.Aligned q offset ∧ AlignedAll q (offset + t.totalSize.bytes) ts := by
  rw [AlignedAll, spansOf, flattenAll_cons, spansLie_append, ← spans, h.spanTotal_spans]
  rfl

@[simp] theorem alignedAll_singleton {t : Tree} :
    AlignedAll q offset [t] ↔ t.Aligned q offset := by
  rw [AlignedAll, spansOf, flattenAll_cons, flattenAll_nil, List.append_nil, Aligned, spans]

theorem alignedAll_append {ts us : List Tree} (hts : ∀ t ∈ ts, t.Consistent lang) :
    AlignedAll q offset (ts ++ us)
      ↔ AlignedAll q offset ts ∧ AlignedAll q (offset + (totalSizes ts).bytes) us := by
  induction ts generalizing offset with
  | nil => simp [alignedAll_nil]
  | cons t ts ih =>
    have ht := hts t (List.mem_cons_self ..)
    rw [List.cons_append, ht.alignedAll_cons, ht.alignedAll_cons,
      ih fun u hu => hts u (List.mem_cons_of_mem _ hu), totalSizes_cons, Extent.bytes_add,
      Nat.add_assoc, and_assoc]

/-- Trees that are aligned one after the other are aligned each where it begins. -/
theorem AlignedAll.eachAt {ts : List Tree} (h : AlignedAll q offset ts)
    (hts : ∀ t ∈ ts, t.Consistent lang) : EachAt (Aligned q) offset ts := by
  induction ts generalizing offset with
  | nil => trivial
  | cons t ts ih =>
    obtain ⟨hfirst, hrest⟩ := ((hts t (List.mem_cons_self ..)).alignedAll_cons ts).mp h
    exact ⟨hfirst, ih hrest fun u hu => hts u (List.mem_cons_of_mem _ hu)⟩

theorem Aligned.children {t : Tree} (h : t.Aligned q offset) : AlignedAll q offset t.children := by
  rcases t with k | ⟨b, _ | ⟨c, cs⟩⟩
  · exact alignedAll_nil
  · exact alignedAll_nil
  · rwa [Aligned, spans_branch b (List.cons_ne_nil c cs)] at h

@[simp] theorem aligned_setExtra {t : Tree} (extra : Bool) :
    (t.setExtra extra).Aligned q offset ↔ t.Aligned q offset := by
  rcases t with k | ⟨b, _ | ⟨c, cs⟩⟩
  · rfl
  · simp [Aligned, setExtra, spans_branch_nil]
  · simp [Aligned, setExtra, spans_branch]

theorem aligned_branch {b : Branch} {cs : List Tree} (hq : q offset (Extent.zero, Extent.zero))
    (h : AlignedAll q offset cs) : (branch b cs).Aligned q offset := by
  cases cs with
  | nil =>
    rw [Aligned, spans_branch_nil]
    exact ⟨hq, trivial⟩
  | cons c cs =>
    rw [Aligned, spans_branch b (List.cons_ne_nil c cs)]
    exact h

theorem aligned_token {k : Token} : (token k).Aligned q offset ↔ q offset (k.padding, k.size) := by
  rw [Aligned, spans_token]
  exact and_iff_left trivial

/-- What goes over from a node to its first child goes over from a tree to its first part. -/
theorem firstPart_induction {P : Tree → Prop} {t : Tree} (h : P t)
    (hdown : ∀ {b : Branch} {first : Tree} {rest : List Tree}, P (branch b (first :: rest)) → P first)
    (tooLarge : Tree → Bool) : P (t.firstPart tooLarge) := by
  fun_induction Tree.firstPart tooLarge t with
  | case1 k => exact h
  | case2 b => exact h
  | case3 b first rest hlarge ih => exact ih (hdown h)
  | case4 b first rest hlarge => exact h

theorem Every.firstPart {onToken : Token → Prop} {onBranch : Branch → List Tree → Prop} {t : Tree}
    (h : t.Every onToken onBranch) (tooLarge : Tree → Bool) :
    (t.firstPart tooLarge).Every onToken onBranch :=
  firstPart_induction h (fun h => h.of_mem (List.mem_cons_self ..)) tooLarge

theorem Aligned.firstPart {t : Tree} (h : t.Aligned q offset) (ht : t.Consistent lang)
    (tooLarge : Tree → Bool) : (t.firstPart tooLarge).Aligned q offset := by
  have hboth := firstPart_induction (P := fun u => u.Consistent lang ∧ u.Aligned q offset) ⟨ht, h⟩
    (fun {b first rest} ⟨hu, halign⟩ => by
      have hfirst : first.Consistent lang := hu.of_mem (List.mem_cons_self ..)
      exact ⟨hfirst, ((Consistent.alignedAll_cons hfirst rest).mp halign.children).1⟩) tooLarge
  exact hboth.2

/-- A tree that is moved is aligned if each of its leaves may lie where it comes to lie. -/
theorem Aligned.move {t : Tree} (h : t.Aligned q offset) (ht : t.Consistent lang)
    (hmove : ∀ y s, y + (s.1 + s.2).bytes ≤ t.totalSize.bytes → q (offset + y) s →
      q' (offset' + y) s) : t.Aligned q' offset' :=
  SpansLie.move h fun y s hle => hmove y s (ht.spanTotal_spans ▸ hle)

/-- Trees that are moved together are aligned if each of their leaves may lie where it comes to lie. -/
theorem AlignedAll.move {ts : List Tree} (h : AlignedAll q offset ts)
    (hmove : ∀ y s, q (offset + y) s → q' (offset' + y) s) : AlignedAll q' offset' ts :=
  SpansLie.move h fun y s _ => hmove y s

end Aligned

/-! ## Conditions on the ends of leaves -/

/-- A leaf that lies at an offset begins, behind its padding, and ends where this is allowed. -/
def Ends (p : Nat → Prop) (offset : Nat) (s : Extent × Extent) : Prop :=
  p (offset + s.1.bytes) ∧ p (offset + (s.1 + s.2).bytes)

section Ends

variable {p : Nat → Prop} {offset : Nat}

theorem SpansLie.stop {spans : List (Extent × Extent)} (h : SpansLie (Ends p) offset spans)
    (hne : spans ≠ []) : p (offset + (spanTotal spans).bytes) := by
  induction spans generalizing offset with
  | nil => exact absurd rfl hne
  | cons x rest ih =>
    obtain ⟨hfirst, hrest⟩ := h
    rw [spanTotal_cons, Extent.bytes_add, ← Nat.add_assoc]
    by_cases hnil : rest = []
    · subst hnil
      exact hfirst.2
    · exact ih hrest hnil

/-- A consistent tree that is aligned begins, behind its padding, and ends where this is allowed. -/
theorem Aligned.ends {t : Tree} (h : t.Aligned (Ends p) offset) (ht : t.Consistent lang) :
    p (offset + t.padding.bytes) ∧ p (offset + t.totalSize.bytes) := by
  obtain ⟨size, rest, hspans, -⟩ := ht.spans_eq
  have hstop := SpansLie.stop h (by simp [hspans])
  rw [ht.spanTotal_spans] at hstop
  rw [Aligned, hspans] at h
  exact ⟨h.1.1, hstop⟩

end Ends

end Tree

/-! ## Cuttings -/

/-- How a text may be cut into leaves: the positions at which one leaf may end and another begin, and
the leaves that may lie at an offset. -/
structure Cutting where
  cuts : Extent → Prop
  lies : Nat → Extent × Extent → Prop
  /-- There may always be a leaf without text. -/
  empty : ∀ {e}, cuts e → lies e.bytes (Extent.zero, Extent.zero)
  behind : ∀ {e s}, cuts e → lies e.bytes s → cuts (e + (s.1 + s.2))

namespace Cutting

/-- Any leaf may lie anywhere. -/
def anywhere : Cutting where
  cuts _ := True
  lies _ _ := True
  empty _ := trivial
  behind _ _ := trivial

theorem aligned_anywhere (t : Tree) (offset : Nat) : t.Aligned anywhere.lies offset := by
  rw [Tree.Aligned]
  generalize t.spans = spans
  induction spans generalizing offset with
  | nil => trivial
  | cons s rest ih => exact ⟨trivial, ih _⟩

/-- Leaves begin and end where a condition on offsets allows. -/
def atOffsets (p : Nat → Prop) : Cutting where
  cuts e := p e.bytes
  lies := Tree.Ends p
  empty h := ⟨h, h⟩
  behind _ h := h.2

variable {lang : Language} {cut : Cutting}

theorem cuts_spans {spans : List (Extent × Extent)} {e : Extent} (he : cut.cuts e)
    (h : Tree.SpansLie cut.lies e.bytes spans) : cut.cuts (e + Tree.spanTotal spans) := by
  induction spans generalizing e with
  | nil => rwa [Tree.spanTotal, List.foldr_nil, Extent.add_zero]
  | cons s rest ih =>
    rw [Tree.spanTotal_cons, ← Extent.add_assoc]
    exact ih (cut.behind he h.1) h.2

end Cutting

/-- What is aligned at a position where a text may be cut ends at one. -/
theorem Tree.Consistent.cuts_stop {lang : Language} {cut : Cutting} {t : Tree} {e : Extent}
    (ht : t.Consistent lang) (he : cut.cuts e) (h : t.Aligned cut.lies e.bytes) :
    cut.cuts (e + t.totalSize) :=
  ht.spanTotal_spans ▸ Cutting.cuts_spans he h

end SyntaxKit
