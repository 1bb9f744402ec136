import SyntaxKit.Proofs.Language.Operators
import SyntaxKit.Proofs.Tree.Outline
import SyntaxKit.Proofs.Tree.Worded

/-!
# Operations in a tree

A node is an operation if one of its children is an operator that forms it (`Tree.Operates`), and an
operand may be nothing but an operation (`Tree.Wraps`).  A tree is ranked if all of its operations have two
operands that bind as tightly as their operators ask for, and operations stand nowhere but in operands
(`Tree.Ranked`).  Balancing, which only turns lists, leaves it so (`Tree.Ranked.balance`), and then the
operations that are seen in the outline of the tree are ranked as well (`Tree.Ranked.outline`).
-/

namespace SyntaxKit

variable {lang : Language} {o : Operators}

namespace Tree

/-- The operator of an operation has the level. -/
def Operates (o : Operators) (t : Tree) (q : Nat) : Prop :=
  ∃ c ∈ t.children, c.isExtra = false ∧ (t.symbol, c.symbol, q) ∈ o.levels

/-- An operand is an operation at the level. -/
def Wraps (o : Operators) (t : Tree) (q : Nat) : Prop :=
  t.symbol = o.operand ∧ ∃ c ∈ t.children, c.Operates o q

theorem Operates.forms {t : Tree} {q : Nat} (h : t.Operates o q) : o.Forms t.symbol := by
  obtain ⟨c, -, -, hlevel⟩ := h
  exact ⟨_, hlevel, rfl⟩

theorem not_operates_token (k : Token) (q : Nat) : ¬(token k).Operates o q := by
  simp [Operates, children]

theorem not_wraps_token (k : Token) (q : Nat) : ¬(token k).Wraps o q := by
  simp [Wraps, children]

end Tree

/-- No branch stands beside the grammar, an operation is made of an operator and two operands that bind as
tightly as it asks for, and operations stand nowhere but in operands. -/
structure Branch.Ranked (o : Operators) (b : Branch) (cs : List Tree) : Prop where
  grammar : b.extra = false
  operation : o.Forms b.symbol → ∃ left op right p, (cs.filter fun c => !c.isExtra) = [left, op, right]
    ∧ left.symbol = o.operand ∧ right.symbol = o.operand ∧ (b.symbol, op.symbol, p) ∈ o.levels
    ∧ (∀ q, left.Wraps o q → o.Left p q) ∧ ∀ q, right.Wraps o q → o.Right p q
  wrapped : ∀ c ∈ cs, o.Forms c.symbol → b.symbol = o.operand

/-- All operations of a tree are ranked, and no token is one. -/
def Tree.Ranked (o : Operators) (t : Tree) : Prop :=
  t.Every (fun k => ¬o.Forms k.symbol) (Branch.Ranked o)

namespace Tree

/-! ## Trees in which the same operations are seen -/

/-- A parent cannot tell one tree from the other by what they are and which operation they are. -/
structure SameRank (o : Operators) (t u : Tree) : Prop where
  symbol : u.symbol = t.symbol
  extra : u.isExtra = t.isExtra
  operates : ∀ q, u.Operates o q ↔ t.Operates o q
  wraps : ∀ q, u.Wraps o q ↔ t.Wraps o q

theorem SameRank.refl (t : Tree) : SameRank o t t := ⟨rfl, rfl, fun _ => .rfl, fun _ => .rfl⟩

theorem SameRank.trans {t u v : Tree} (h : SameRank o t u) (h' : SameRank o u v) :
    SameRank o t v :=
  ⟨h'.symbol.trans h.symbol, h'.extra.trans h.extra,
    fun q => (h'.operates q).trans (h.operates q), fun q => (h'.wraps q).trans (h.wraps q)⟩

/-- What does not form operations and is no operand is not seen to be one. -/
theorem sameRank_of_unranked {t u : Tree} (hsymbol : u.symbol = t.symbol)
    (hextra : u.isExtra = t.isExtra) (hforms : ¬o.Forms t.symbol) (hne : t.symbol ≠ o.operand) :
    SameRank o t u where
  symbol := hsymbol
  extra := hextra
  operates _ := iff_of_false (fun h => hforms (hsymbol ▸ h.forms)) fun h => hforms h.forms
  wraps _ := iff_of_false (fun h => hne (hsymbol ▸ h.1)) fun h => hne h.1

theorem sameRank_self (cs : List Tree) : List.Forall₂ (SameRank o) cs cs :=
  List.forall₂_same.mpr fun c _ => .refl c

/-- What is so of one of some trees is so of one of those in their places. -/
theorem exists_congr_of_forall₂ {R : Tree → Tree → Prop} {p : Tree → Prop} {cs ds : List Tree}
    (h : List.Forall₂ R cs ds) (hp : ∀ c d, R c d → (p d ↔ p c)) :
    (∃ d ∈ ds, p d) ↔ ∃ c ∈ cs, p c := by
  induction h with
  | nil => simp
  | cons hcd _ ih => simp only [List.exists_mem_cons_iff, ih, hp _ _ hcd]

theorem sameRank_branch {b b' : Branch} {cs ds : List Tree} (hb : Branch.SameRoot b b')
    (h : List.Forall₂ (SameRank o) cs ds) : SameRank o (branch b cs) (branch b' ds) where
  symbol := hb.symbol
  extra := hb.extra
  operates q := by
    have hsymbol : (branch b' ds).symbol = (branch b cs).symbol := hb.symbol
    rw [Operates, Operates, hsymbol]
    exact exists_congr_of_forall₂ h fun c d hcd => by rw [hcd.extra, hcd.symbol]
  wraps q := and_congr (by rw [show (branch b' ds).symbol = (branch b cs).symbol from hb.symbol])
    (exists_congr_of_forall₂ h fun c d hcd => hcd.operates q)

theorem sameRank_resummarize (t : Tree) : SameRank o t (t.resummarize lang) := by
  cases t with
  | token k => exact .refl _
  | branch b cs => exact sameRank_branch (Branch.sameRoot_summarize lang b cs) (sameRank_self cs)

/-- Children that are seen to be the same make no difference to a branch. -/
theorem Ranked.congr {b b' : Branch} {cs ds : List Tree} (h : (branch b cs).Ranked o)
    (hb : Branch.SameRoot b b') (hsame : List.Forall₂ (SameRank o) cs ds)
    (hds : ∀ d ∈ ds, d.Ranked o) : (branch b' ds).Ranked o := by
  have root := Every.of_branch h
  refine .branch ⟨hb.extra.trans root.grammar, fun hforms => ?_, fun d hd hforms => ?_⟩ hds
  · rw [hb.symbol] at hforms ⊢
    obtain ⟨left, op, right, p, hfilter, hleft, hright, hlevel, hranks, hranks'⟩ :=
      root.operation hforms
    have hall : List.Forall₂ (SameRank o) [left, op, right] (ds.filter fun d => !d.isExtra) := by
      rw [← hfilter]
      exact List.rel_filter (fun {c d} hcd => by simp only [hcd.extra]) hsame
    simp only [List.forall₂_cons_left_iff, List.forall₂_nil_left_iff] at hall
    obtain ⟨left', _, hl, ⟨op', _, hop, ⟨right', _, hr, rfl, rfl⟩, rfl⟩, hfilter'⟩ := hall
    exact ⟨left', op', right', p, hfilter', hl.symbol.trans hleft, hr.symbol.trans hright,
      hop.symbol ▸ hlevel, fun q hq => hranks q ((hl.wraps q).mp hq),
      fun q hq => hranks' q ((hr.wraps q).mp hq)⟩
  · obtain ⟨c, hc, hforms⟩ := (exists_congr_of_forall₂ (p := fun t => o.Forms t.symbol) hsame
      fun c d hcd => by rw [hcd.symbol]).mp ⟨d, hd, hforms⟩
    rw [hb.symbol]
    exact root.wrapped c hc hforms

theorem Ranked.resummarize {t : Tree} (h : t.Ranked o) : (t.resummarize lang).Ranked o := by
  cases t with
  | token k => exact h
  | branch b cs =>
    exact h.congr (Branch.sameRoot_summarize lang b cs) (sameRank_self cs)
      fun c hc => Every.of_mem h hc

theorem Ranked.resummarizeLast {t : Tree} (h : t.Ranked o) :
    (resummarizeLast lang t).Ranked o ∧ SameRank o t (resummarizeLast lang t) := by
  rcases resummarizeLast_cases lang t with heq | ⟨b, front, last, rfl, hlast⟩
  · rw [heq]
    exact ⟨h, .refl _⟩
  · have hsame : List.Forall₂ (SameRank o) (front ++ [last]) (front ++ [last.resummarize lang]) :=
      List.rel_append (sameRank_self front) (.cons (sameRank_resummarize last) .nil)
    have hroot : Branch.SameRoot b b := by constructor <;> simp
    have hall : ∀ d ∈ front ++ [last.resummarize lang], d.Ranked o := by
      intro d hd
      rcases List.mem_append.mp hd with hd | hd
      · exact Every.of_mem h (List.mem_append_left _ hd)
      · rw [List.mem_singleton] at hd
        exact hd ▸ Ranked.resummarize (Every.of_mem h (List.mem_append_right _ (by simp)))
    rw [hlast]
    exact ⟨(h.congr hroot hsame hall).resummarize,
      (sameRank_branch hroot hsame).trans (sameRank_resummarize _)⟩

/-! ## Balancing -/

/-- Lists are neither operations nor operands. -/
def Unlisted (lang : Language) (o : Operators) : Prop :=
  ∀ s, lang.visibility s = .auxiliary → ¬o.Forms s ∧ s ≠ o.operand

/-- What a list is made of is no operation. -/
theorem Ranked.part (hlists : Unlisted lang o) {b : Branch} {cs : List Tree}
    (h : (branch b cs).Ranked o) (haux : lang.visibility b.symbol = .auxiliary) {c : Tree}
    (hc : c ∈ cs) : c.Ranked o ∧ ¬o.Forms c.symbol :=
  ⟨Every.of_mem h hc, fun hforms =>
    (hlists _ haux).2 ((Every.of_branch h).wrapped c hc hforms)⟩

/-- A list may be made of anything that is no operation. -/
theorem Ranked.relist (hlists : Unlisted lang o) {b : Branch} {cs ds : List Tree}
    (h : (branch b cs).Ranked o) (haux : lang.visibility b.symbol = .auxiliary)
    (hds : ∀ d ∈ ds, d.Ranked o ∧ ¬o.Forms d.symbol) : (branch b ds).Ranked o :=
  .branch ⟨(Every.of_branch h).grammar, fun hforms => absurd hforms (hlists _ haux).1,
    fun d hd hforms => absurd hforms (hds d hd).2⟩ fun d hd => (hds d hd).1

/-- Lists are all seen to be the same. -/
theorem sameRank_list (hlists : Unlisted lang o) {b b' : Branch} {cs ds : List Tree}
    (h : (branch b cs).Ranked o) (h' : (branch b' ds).Ranked o) (hsymbol : b'.symbol = b.symbol)
    (haux : lang.visibility b.symbol = .auxiliary) : SameRank o (branch b cs) (branch b' ds) :=
  sameRank_of_unranked hsymbol
    ((Every.of_branch h').grammar.trans (Every.of_branch h).grammar.symm) (hlists _ haux).1
    (hlists _ haux).2

/-- Turning a list changes nothing of which operations are seen. -/
theorem ranked_of_rotated (hlists : Unlisted lang o) {t u : Tree} (h : Rotated lang t u) :
    t.Ranked o → lang.visibility t.symbol = .auxiliary → u.Ranked o ∧ SameRank o t u := by
  induction h with
  | stay t => exact fun ht _ => ⟨ht, .refl t⟩
  | @turn b c g' others cOthers gs last u hchild hgrandchild hbelow ih =>
    intro ht haux
    replace haux : lang.visibility b.symbol = .auxiliary := haux
    have hcAux : lang.visibility c.symbol = .auxiliary := hchild ▸ haux
    have hgAux : lang.visibility g'.symbol = .auxiliary := hgrandchild ▸ haux
    have hc := ht.part hlists haux (List.mem_cons_self ..)
    have hg := hc.1.part hlists hcAux (List.mem_cons_self ..)
    -- the child goes down to be the last child of the grandchild
    have hdown : (branch c (last :: cOthers)).Ranked o :=
      hc.1.relist hlists hcAux (List.forall_mem_cons.mpr
        ⟨hg.1.part hlists hgAux (List.mem_append_right _ (by simp)),
          fun d hd => hc.1.part hlists hcAux (List.mem_cons_of_mem _ hd)⟩)
    have hup : (branch g' (gs ++ [branch c (last :: cOthers)])).Ranked o := by
      refine hg.1.relist hlists hgAux (List.forall_mem_append.mpr ⟨fun d hd => ?_, ?_⟩)
      · exact hg.1.part hlists hgAux (List.mem_append_left _ hd)
      · simpa using ⟨hdown, (hlists _ hcAux).1⟩
    obtain ⟨hu, hsame⟩ := ih hup hgAux
    obtain ⟨hu', hsame'⟩ := hu.resummarizeLast
    have hturned := sameRank_list hlists hc.1 hup (hgrandchild.trans hchild.symm) hcAux
    have hall : List.Forall₂ (SameRank o) (branch c (branch g' (gs ++ [last]) :: cOthers) :: others)
        (Tree.resummarizeLast lang u :: others) :=
      .cons (hturned.trans (hsame.trans hsame')) (sameRank_self others)
    have hroot : Branch.SameRoot b b := by constructor <;> simp
    have hout := ht.congr hroot hall (List.forall_mem_cons.mpr
      ⟨hu', fun d hd => Every.of_mem ht (List.mem_cons_of_mem _ hd)⟩)
    exact ⟨hout.resummarize, (sameRank_branch hroot hall).trans (sameRank_resummarize _)⟩

theorem Ranked.balanceRoot (hlists : Unlisted lang o) {t : Tree} (h : t.Ranked o)
    (ht : t.Consistent lang) (generation : Nat) : (Tree.balanceRoot lang generation t).Ranked o
      ∧ SameRank o t (Tree.balanceRoot lang generation t) := by
  -- all that a list is turned into has its label
  have hall := balanceRoot_induction lang
    (R := fun t u => t.Ranked o → u.Ranked o ∧ SameRank o t u) generation t
    (fun h => ⟨h, .refl t⟩) ?_
  · exact hall h
  · intro hdepth u v hu huv hranked
    obtain ⟨hu, hsame⟩ := hu hranked
    have haux : lang.visibility u.symbol = .auxiliary := by
      rw [hsame.symbol]
      cases ht with
      | token root => simp [repeatDepth] at hdepth
      | branch root children => exact root.list hdepth
    obtain ⟨hv, hsame'⟩ := ranked_of_rotated hlists huv hu haux
    exact ⟨hv, hsame.trans hsame'⟩

/-- **Balancing keeps operations ranked.** -/
theorem Ranked.balance (hlists : Unlisted lang o) {t : Tree} (h : t.Ranked o)
    (ht : t.Consistent lang) (generation : Nat) :
    (t.balance lang generation).Ranked o ∧ SameRank o t (t.balance lang generation) := by
  induction hn : t.weight using Nat.strongRecOn generalizing t with
  | _ n ih =>
    obtain ⟨hroot, hsame⟩ := h.balanceRoot hlists ht generation
    have hconsistent := (ht.balanceRoot generation).1
    rw [balance_eq]
    cases hu : Tree.balanceRoot lang generation t with
    | token k =>
      rw [hu] at hroot hsame
      exact ⟨hroot, hsame⟩
    | branch b cs =>
      rw [hu] at hroot hsame hconsistent
      have hcs : ∀ c ∈ cs, (balanceChild lang generation c).Ranked o
          ∧ SameRank o c (balanceChild lang generation c) := by
        intro c hc
        have hranked : c.Ranked o := Every.of_mem hroot hc
        rcases balanceChild_eq_or lang generation c with heq | heq
        · rw [heq]
          exact ⟨hranked, .refl c⟩
        · have hlt : c.weight < n := by
            rw [← hn, ← weight_balanceRoot lang generation t, hu, weight_branch]
            exact Nat.lt_succ_of_le (weight_le_of_mem hc)
          rw [heq]
          exact ih _ hlt hranked (hconsistent.child hc) rfl
      have hall : List.Forall₂ (SameRank o) cs (cs.map (balanceChild lang generation)) := by
        rw [List.forall₂_map_right_iff]
        exact List.forall₂_same.mpr fun c hc => (hcs c hc).2
      have hsameRoot : Branch.SameRoot b b := by constructor <;> simp
      refine ⟨hroot.congr hsameRoot hall fun d hd => ?_,
        hsame.trans (sameRank_branch hsameRoot hall)⟩
      obtain ⟨c, hc, rfl⟩ := List.mem_map.mp hd
      exact (hcs c hc).1

end Tree

/-! ## Operations that are seen -/

namespace Outline

/-- The nodes right below one that do not stand beside the grammar. -/
def members (x : Outline) : List Outline := x.children.filter fun c => !c.node.isExtra

/-- The symbol of the node at the top. -/
def symbol (x : Outline) : Symbol := x.node.tree.symbol

/-- The operator of an operation has the level. -/
def Operates (o : Operators) (x : Outline) (q : Nat) : Prop :=
  ∃ c ∈ x.members, (x.symbol, c.symbol, q) ∈ o.levels

/-- If the node is an operation, it is made of an operator and two operands, and an operation that an
operand is directly binds as tightly as the operator asks for. -/
def Ranked (o : Operators) (x : Outline) : Prop :=
  o.Forms x.symbol → ∃ left op right p, x.members = [left, op, right]
    ∧ left.symbol = o.operand ∧ right.symbol = o.operand ∧ (x.symbol, op.symbol, p) ∈ o.levels
    ∧ (∀ c ∈ left.children, ∀ q, c.Operates o q → o.Left p q)
    ∧ ∀ c ∈ right.children, ∀ q, c.Operates o q → o.Right p q

end Outline

/-- Operations, their operands and their operators are shown. -/
structure Language.Shows (lang : Language) (o : Operators) : Prop where
  operand : lang.isVisible o.operand = true
  operation : ∀ x ∈ o.levels, lang.isVisible x.1 = true
  operator : ∀ x ∈ o.levels, lang.isVisible x.2.1 = true

theorem Language.Shows.unlisted {lang : Language} {o : Operators} (h : lang.Shows o) :
    Tree.Unlisted lang o := by
  have hhidden : ∀ {s}, lang.visibility s = .auxiliary → lang.isVisible s = false := by
    intro s hs
    rw [Language.isVisible, hs]
  refine fun s hs => ⟨?_, ?_⟩
  · rintro ⟨x, hx, rfl⟩
    exact absurd ((h.operation x hx).symm.trans (hhidden hs)) (by simp)
  · rintro rfl
    exact absurd (h.operand.symm.trans (hhidden hs)) (by simp)

namespace Tree

/-- What is seen at a site. -/
def Site.outline (lang : Language) (s : Site) : Outline := .mk s.node (outlines lang (s.below lang))

/-- Where all that does not stand beside the grammar is shown, it is what is seen. -/
theorem members_outlines (sites : List Site) : (∀ s ∈ sites, s.tree.Ranked o) →
    (∀ s ∈ sites, s.tree.isExtra = false → lang.isVisible s.tree.symbol = true) →
    ((outlines lang sites).filter fun x => !x.node.isExtra)
      = (sites.filter fun s => !s.tree.isExtra).map (Site.outline lang) := by
  induction sites with
  | nil => simp
  | cons s rest ih =>
    intro hranked hshown
    obtain ⟨hs, hrest⟩ := List.forall_mem_cons.mp hranked
    obtain ⟨hshown, hothers⟩ := List.forall_mem_cons.mp hshown
    have hnode : (Site.outline lang s).node.isExtra = s.tree.isExtra := rfl
    cases hvisible : lang.isVisible s.tree.symbol with
    | true =>
      rw [outlines_cons_visible lang hvisible]
      change ((Site.outline lang s :: outlines lang rest).filter _) = _
      rw [List.filter_cons, List.filter_cons, hnode, ih hrest hothers]
      split <;> rfl
    | false =>
      have hextra : s.tree.isExtra = true := by
        by_contra hnot
        exact absurd (hvisible.symm.trans (hshown (by simpa using hnot))) (by simp)
      have hnil : s.inside lang = [] := by
        cases htree : s.tree with
        | token k => simp [Site.inside, htree, children, childSites]
        | branch b cs =>
          rw [htree] at hs hextra
          exact absurd (hextra.symm.trans (Every.of_branch hs).grammar) (by simp)
      rw [outlines_cons_invisible lang hvisible, hnil, List.nil_append, ih hrest hothers,
        List.filter_cons_of_neg (by simp [hextra])]

/-- **An operation that is seen below some sites stands at one of them**, because what is hidden is no
operand. -/
theorem exists_site_of_forms (hshows : lang.Shows o) (sites : List Site) :
    (∀ s ∈ sites, s.tree.Ranked o) → ∀ x ∈ outlines lang sites, o.Forms x.symbol →
      ∃ s ∈ sites, x = s.outline lang := by
  induction sites using sites_induction lang with
  | nil => simp
  | visible s rest h below ih =>
    intro hranked x hx hforms
    rw [outlines_cons_visible lang h] at hx
    rcases List.mem_cons.mp hx with rfl | hx
    · exact ⟨s, List.mem_cons_self .., rfl⟩
    · obtain ⟨s', hs', heq⟩ := ih (List.forall_mem_cons.mp hranked).2 x hx hforms
      exact ⟨s', List.mem_cons_of_mem _ hs', heq⟩
  | invisible s rest h ih =>
    intro hranked x hx hforms
    obtain ⟨hs, hrest⟩ := List.forall_mem_cons.mp hranked
    rw [outlines_cons_invisible lang h] at hx
    obtain ⟨s', hs', rfl⟩ := ih (fun s' hs' => (List.mem_append.mp hs').elim
      (fun hs' => Every.of_mem hs (Site.tree_mem_of_inside lang hs')) (hrest s')) x hx hforms
    rcases List.mem_append.mp hs' with hs' | hs'
    · -- the hidden node would have to be an operand
      have hmem := Site.tree_mem_of_inside lang hs'
      cases htree : s.tree with
      | token k => simp [htree, children] at hmem
      | branch b cs =>
        rw [htree] at hs hmem h
        have hoperand := (Every.of_branch hs).wrapped _ hmem hforms
        rw [show (branch b cs).symbol = b.symbol from rfl, hoperand] at h
        exact absurd (h.symm.trans hshows.operand) (by simp)
    · exact ⟨s', List.mem_cons_of_mem _ hs', rfl⟩

section Sites

variable (hshows : lang.Shows o) {s : Site} (hs : s.tree.Ranked o)

include hshows hs

/-- All that is right below an operation is seen. -/
theorem members_outline (hforms : o.Forms s.tree.symbol) :
    (s.outline lang).members
      = ((s.below lang).filter fun s => !s.tree.isExtra).map (Site.outline lang) := by
  refine members_outlines (s.below lang)
    (fun s' hs' => Every.of_mem hs (Site.tree_mem_of_below lang hs')) fun s' hs' hextra => ?_
  have hmem := Site.tree_mem_of_below lang hs'
  cases htree : s.tree with
  | token k => simp [htree, children] at hmem
  | branch b cs =>
    rw [htree] at hs hforms hmem
    obtain ⟨left, op, right, p, hfilter, hleft, hright, hlevel, -⟩ :=
      (Every.of_branch hs).operation hforms
    have hin : s'.tree ∈ cs.filter fun c => !c.isExtra := List.mem_filter.mpr ⟨hmem, by simp [hextra]⟩
    rw [hfilter] at hin
    simp only [List.mem_cons, List.not_mem_nil, or_false] at hin
    rcases hin with heq | heq | heq
    · exact heq ▸ hleft ▸ hshows.operand
    · exact heq ▸ hshows.operator _ hlevel
    · exact heq ▸ hright ▸ hshows.operand

/-- An operation that is seen is one. -/
theorem operates_of_outline {q : Nat} (h : (s.outline lang).Operates o q) : s.tree.Operates o q := by
  obtain ⟨c, hc, hlevel⟩ := h
  rw [members_outline hshows hs ⟨_, hlevel, rfl⟩] at hc
  obtain ⟨s', hs', rfl⟩ := List.mem_map.mp hc
  obtain ⟨hs', hextra⟩ := List.mem_filter.mp hs'
  exact ⟨s'.tree, Site.tree_mem_of_below lang hs', by simpa using hextra, hlevel⟩

/-- An operand is an operation if one is seen in it. -/
theorem wraps_of_outline (hoperand : s.tree.symbol = o.operand) {c : Outline}
    (hc : c ∈ (s.outline lang).children) {q : Nat} (hoperates : c.Operates o q) : s.tree.Wraps o q := by
  have hbelow : ∀ s' ∈ s.below lang, s'.tree.Ranked o :=
    fun s' hs' => Every.of_mem hs (Site.tree_mem_of_below lang hs')
  obtain ⟨s', hs', rfl⟩ := exists_site_of_forms hshows _ hbelow c hc
    (let ⟨_, _, hlevel⟩ := hoperates; ⟨_, hlevel, rfl⟩)
  exact ⟨hoperand, s'.tree, Site.tree_mem_of_below lang hs',
    operates_of_outline hshows (hbelow s' hs') hoperates⟩

/-- What is seen at a site is ranked. -/
theorem ranked_of_site : (s.outline lang).Ranked o := by
  intro hforms
  change o.Forms s.tree.symbol at hforms
  have hmembers := members_outline hshows hs hforms
  have hbelow : ∀ s' ∈ s.below lang, s'.tree.Ranked o :=
    fun s' hs' => Every.of_mem hs (Site.tree_mem_of_below lang hs')
  cases htree : s.tree with
  | token k =>
    rw [htree] at hs hforms
    exact absurd hforms (Every.of_token hs)
  | branch b cs =>
    rw [htree] at hs hforms
    obtain ⟨left, op, right, p, hfilter, hleft, hright, hlevel, hranks, hranks'⟩ :=
      (Every.of_branch hs).operation hforms
    have htrees : ((s.below lang).filter fun s => !s.tree.isExtra).map (·.tree) = [left, op, right] := by
      rw [← hfilter, show cs = (s.below lang).map (·.tree) by rw [s.map_tree_below lang, htree]; rfl,
        List.filter_map]
      rfl
    obtain ⟨sLeft, rest, hsites, rfl, hrest⟩ := List.map_eq_cons_iff.mp htrees
    obtain ⟨sOp, rest, rfl, rfl, hrest'⟩ := List.map_eq_cons_iff.mp hrest
    obtain ⟨sRight, rest, rfl, rfl, hnil⟩ := List.map_eq_cons_iff.mp hrest'
    obtain rfl := List.map_eq_nil_iff.mp hnil
    have hin : ∀ s' ∈ [sLeft, sOp, sRight], s'.tree.Ranked o := fun s' hs' =>
      hbelow s' (List.mem_of_mem_filter (hsites ▸ hs'))
    refine ⟨sLeft.outline lang, sOp.outline lang, sRight.outline lang, p,
      hmembers.trans (by rw [hsites]; rfl), hleft, hright, ?_, fun c hc q hq => ?_, fun c hc q hq => ?_⟩
    · rw [show (s.outline lang).symbol = b.symbol from congrArg Tree.symbol htree]
      exact hlevel
    · exact hranks q (wraps_of_outline hshows (hin sLeft (by simp)) hleft hc hq)
    · exact hranks' q (wraps_of_outline hshows (hin sRight (by simp)) hright hc hq)

end Sites

/-- **All operations that are seen in a ranked tree are ranked.** -/
theorem Ranked.outline (hshows : lang.Shows o) {t : Tree} (h : t.Ranked o) :
    ∀ x ∈ (t.outline lang).all, x.Ranked o := by
  intro x hx
  have hbelow : ∀ s : Site, s.tree.Ranked o → ∀ s' ∈ s.below lang, s'.tree.Ranked o :=
    fun s hs s' hs' => Every.of_mem hs (Site.tree_mem_of_below lang hs')
  rw [Tree.outline, Outline.all_mk] at hx
  rcases List.mem_cons.mp hx with rfl | hx
  · have hroot : (⟨t, Extent.zero, 0, none⟩ : Site).node = t.root := by simp [Site.node, Tree.root]
    rw [← hroot]
    exact ranked_of_site hshows (s := ⟨t, Extent.zero, 0, none⟩) h
  · obtain ⟨s, hs, -, rfl⟩ := exists_site lang (P := fun s => s.tree.Ranked o) hbelow
      (fun s hs s' hs' => Every.of_mem hs (Site.tree_mem_of_inside lang hs')) _
      (hbelow ⟨t, Extent.zero, 0, none⟩ h) x hx
    exact ranked_of_site hshows hs

end Tree

end SyntaxKit
