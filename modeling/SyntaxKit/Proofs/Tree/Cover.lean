import SyntaxKit.Proofs.Tree.Layout
import SyntaxKit.Proofs.Tree.Outline

/-!
# What the nodes of a tree show of the text

If the tokens of a tree are laid out over a text, then every visible node begins and ends at a
position of the text (`Tree.Site.Lies.stands`), and the leaves of the outline show all of it but gaps
(`Tree.shown_outlines`).
Nothing is hidden otherwise: a token that does not show is made of blank space.
-/

namespace SyntaxKit

open Lexer

variable {lang : Language} {text : List Char}

namespace Outline

mutual

/-- The nodes of an outline that are above no others, from left to right. -/
def leaves : Outline → List Node
  | mk n [] => [n]
  | mk _ (o :: os) => leaves o ++ leavesOf os

/-- The nodes of some outlines that are above no others, from left to right. -/
def leavesOf : List Outline → List Node
  | [] => []
  | o :: os => leaves o ++ leavesOf os

end

@[simp] theorem leaves_mk_nil (n : Node) : (mk n []).leaves = [n] := by rw [leaves]

@[simp] theorem leavesOf_nil : leavesOf [] = [] := by rw [leavesOf]

@[simp] theorem leavesOf_cons (o : Outline) (os : List Outline) :
    leavesOf (o :: os) = o.leaves ++ leavesOf os := by rw [leavesOf]

theorem leaves_mk {os : List Outline} (n : Node) (h : os ≠ []) :
    (mk n os).leaves = leavesOf os := by
  cases os with
  | nil => exact absurd rfl h
  | cons o os => rw [leaves, leavesOf]

end Outline

/-! ## Places of single characters -/

/-- A character of the middle of a text is in the middle part. -/
theorem Text.exists_of_between {p q r front back : List Char} {c : Char}
    (htext : p ++ q ++ r = front ++ c :: back) (hlow : byteLength p ≤ byteLength front)
    (hhigh : byteLength front < byteLength (p ++ q)) :
    ∃ q₁ q₂, q = q₁ ++ c :: q₂ ∧ front = p ++ q₁ := by
  obtain ⟨q₁, rfl⟩ : ∃ q₁, front = p ++ q₁ := by
    rw [List.append_assoc] at htext
    rcases List.append_eq_append_iff.mp htext with ⟨q₁, hfront, -⟩ | ⟨q₁, hp, -⟩
    · exact ⟨q₁, hfront⟩
    · subst hp
      rw [byteLength_append] at hlow
      obtain rfl := byteLength_eq_zero.mp (show byteLength q₁ = 0 by omega)
      exact ⟨[], by simp⟩
  rw [List.append_assoc, List.append_assoc] at htext
  have hrest := List.append_cancel_left htext
  rcases List.append_eq_append_iff.mp hrest with ⟨extra, hq, -⟩ | ⟨q₂, hq, hr⟩
  · subst hq
    simp only [byteLength_append] at hhigh
    omega
  · cases q₂ with
    | nil =>
      rw [hq] at hhigh
      simp at hhigh
    | cons c' q₂ =>
      obtain ⟨rfl, -⟩ := List.cons.inj hr
      exact ⟨q₁, q₂, hq, rfl⟩

/-- A character of a text that stands for nothing: blank space, or a byte-order mark at the start. -/
def Text.IsBlankAt (front : List Char) (c : Char) : Prop :=
  Text.isSpace c = true ∨ front = [] ∧ c = byteOrderMark

theorem Lexer.Gap.isBlankAt {before pad : List Char} (h : Gap before pad) {q₁ q₂ : List Char}
    {c : Char} (hpad : pad = q₁ ++ c :: q₂) : Text.IsBlankAt (before ++ q₁) c := by
  subst hpad
  rcases h with hspace | ⟨rfl, rest, hmark, hspace⟩
  · exact .inl (hspace c (by simp))
  · cases q₁ with
    | nil => exact .inr ⟨rfl, (List.cons.inj hmark).1⟩
    | cons c' q₁ =>
      obtain ⟨-, rfl⟩ := List.cons.inj hmark
      exact .inl (hspace c (by simp))

/-! ## Showing a part of a text -/

/-- The node begins and ends at positions of the text. -/
def Node.Stands (text : List Char) (n : Node) : Prop :=
  ∃ front body, front ++ body <+: text ∧ n.start = Extent.ofText front
    ∧ n.stop = Extent.ofText (front ++ body)

/-- The node is over the character behind `front`. -/
def Node.Shows (n : Node) (front : List Char) (c : Char) : Prop :=
  n.start.bytes ≤ Text.byteLength front
    ∧ Text.byteLength front + c.utf8Size ≤ n.stop.bytes

/-- Some nodes show all of the text between two offsets but gaps. -/
def Text.Shown (text : List Char) (first last : Nat) (leaves : List Node) : Prop :=
  ∀ front c back, text = front ++ c :: back → first ≤ byteLength front →
    byteLength front < last → IsBlankAt front c ∨ ∃ n ∈ leaves, n.Shows front c

namespace Text.Shown

theorem append {first mid last : Nat} {ns ns' : List Node} (h : Shown text first mid ns)
    (h' : Shown text mid last ns') : Shown text first last (ns ++ ns') := by
  intro front c back htext hfirst hlast
  by_cases hmid : byteLength front < mid
  · refine (h front c back htext hfirst hmid).imp_right ?_
    rintro ⟨n, hn, hshows⟩
    exact ⟨n, List.mem_append_left _ hn, hshows⟩
  · refine (h' front c back htext (by omega) hlast).imp_right ?_
    rintro ⟨n, hn, hshows⟩
    exact ⟨n, List.mem_append_right _ hn, hshows⟩

theorem refl (first : Nat) (ns : List Node) : Shown text first first ns := by
  intro front c back _ hfirst hlast
  omega

theorem mono {first last : Nat} {ns ns' : List Node} (h : Shown text first last ns)
    (hsub : ∀ n ∈ ns, n ∈ ns') : Shown text first last ns' := by
  intro front c back htext hfirst hlast
  refine (h front c back htext hfirst hlast).imp_right ?_
  rintro ⟨n, hn, hshows⟩
  exact ⟨n, hsub n hn, hshows⟩

/-- Gaps need not be shown. -/
theorem of_gap {before pad : List Char} (h : Gap before pad) (rest : List Char) (ns : List Node) :
    Shown (before ++ pad ++ rest) (byteLength before) (byteLength (before ++ pad)) ns := by
  intro front c back htext hfirst hlast
  obtain ⟨q₁, q₂, hpad, rfl⟩ := exists_of_between htext hfirst hlast
  exact .inl (h.isBlankAt hpad)

/-- A node shows what is between its ends. -/
theorem of_node {n : Node} {front body : List Char} (rest : List Char)
    (hstart : n.start = Extent.ofText front) (hstop : n.stop = Extent.ofText (front ++ body)) :
    Shown (front ++ body ++ rest) (byteLength front) (byteLength (front ++ body)) [n] := by
  intro front' c back htext hfirst hlast
  obtain ⟨q₁, q₂, rfl, rfl⟩ := exists_of_between htext hfirst hlast
  refine .inr ⟨n, List.mem_singleton_self n, ?_, ?_⟩
  · rw [hstart, Extent.bytes_ofText]
    exact hfirst
  · rw [hstop, Extent.bytes_ofText]
    simp only [byteLength_append, byteLength]
    omega

end Text.Shown

namespace Tree

/-- A token that does not show stands for nothing. -/
theorem shown_hidden (hlossless : lang.Lossless) {k : Token} (hk : k.Consistent lang)
    (hvisible : lang.isVisible k.symbol = false) {before after : List Char}
    (h : k.Lies lang text before after) :
    Text.Shown text (Text.byteLength before) (Text.byteLength after) [] := by
  obtain ⟨pad, body, post, rfl, rfl, hplaced | ⟨hmissing, -⟩⟩ := h
  · have hbody : ∀ c ∈ body, Text.isSpace c = true := by
      rcases hplaced.spelt with herror | hlexeme | ⟨-, rfl, -⟩
      · rw [herror] at hvisible
        exact absurd hvisible (by simp [Language.isVisible, Language.visibility])
      · exact hlexeme.isSpace hlossless hvisible
      · simp
    have hspace : Gap (before ++ pad) body := .inl hbody
    have hgap := Text.Shown.of_gap hplaced.gap (body ++ post) []
    have hrest := Text.Shown.of_gap hspace post []
    rw [← List.append_assoc] at hgap
    simpa using hgap.append hrest
  · exact absurd (hk.missing hmissing) (by simp [hvisible])

/-- The node at a site begins and ends where the tokens below it do. -/
theorem exists_ends {s : Site} (hs : s.tree.Consistent lang) {before after : List Char}
    (hoffset : s.offset = Extent.ofText before)
    (h : Token.Laid lang text before s.tree.tokens after) :
    ∃ pad body, after = before ++ pad ++ body ∧ s.node.start = Extent.ofText (before ++ pad)
      ∧ s.node.stop = Extent.ofText (before ++ pad ++ body) := by
  obtain ⟨pad, body, rfl, hpadding, hsize⟩ := hs.measures before after h
  have hstart : s.node.start = Extent.ofText (before ++ pad) := by
    rw [Extent.ofText_append, ← hoffset, ← hpadding]
    rfl
  refine ⟨pad, body, rfl, hstart, ?_⟩
  rw [Extent.ofText_append, ← hstart, ← hsize]
  rfl

/-- The tokens below a site are laid out over the text from where the site begins. -/
def Site.Lies (lang : Language) (text : List Char) (s : Site) : Prop :=
  ∃ before after, Text.At text s.offset before ∧ Token.Laid lang text before s.tree.tokens after

theorem lies_of_sited {sites : List Site} {offset : Extent} {before after : List Char}
    (hsited : Sited offset sites) (hat : Text.At text offset before)
    (hconsistent : ∀ s ∈ sites, s.tree.Consistent lang)
    (h : Token.Laid lang text before (tokensOf (sites.map (·.tree))) after) :
    ∀ s ∈ sites, s.Lies lang text := by
  induction sites generalizing offset before with
  | nil => simp
  | cons s rest ih =>
    obtain ⟨rfl, hrest⟩ := hsited
    rw [List.map_cons, tokensOf_cons] at h
    obtain ⟨mid, hfirst, hlast⟩ := h.split
    have hone : ∀ t ∈ [s.tree], t.Consistent lang :=
      fun t ht => List.mem_singleton.mp ht ▸ hconsistent s (List.mem_cons_self ..)
    have htotal := total_of_laid hone (by simpa using hfirst)
    have hmid : Text.At text (s.offset + s.tree.totalSize) mid := by
      refine ⟨hfirst.begins hat.1, ?_⟩
      rw [htotal, hat.2]
      simp
    exact List.forall_mem_cons.mpr ⟨⟨before, mid, hat, hfirst⟩,
      ih hrest hmid (fun s hs => hconsistent s (List.mem_cons_of_mem _ hs)) hlast⟩

/-- The sites of the children lie where their parent does. -/
theorem Site.Lies.childSites {s : Site} (h : s.Lies lang text) (hs : s.tree.Consistent lang)
    (production depth : Nat) (field : Option String) (index : Nat) :
    ∀ s' ∈ Tree.childSites lang production depth field s.tree.children s.offset index,
      s'.Lies lang text := by
  obtain ⟨before, after, hat, hlaid⟩ := h
  intro s' hs'
  have hconsistent : ∀ s' ∈ Tree.childSites lang production depth field s.tree.children s.offset
      index, s'.tree.Consistent lang := by
    intro s' hs'
    have hmem := List.mem_map_of_mem (f := fun s : Site => s.tree) hs'
    rw [map_tree_childSites] at hmem
    exact hs.of_mem hmem
  cases htree : s.tree with
  | token k =>
    rw [htree] at hs'
    simp [children, Tree.childSites] at hs'
  | branch b cs =>
    have hchildren : Token.Laid lang text before (tokensOf ((Tree.childSites lang production depth
        field s.tree.children s.offset index).map (·.tree))) after := by
      rw [map_tree_childSites, htree, children, ← tokens_branch b cs, ← htree]
      exact hlaid
    exact lies_of_sited (sited_childSites lang _ _ _ _ _ _) hat hconsistent hchildren s' hs'

/-- The node at a site that lies in a text begins and ends at positions of it. -/
theorem Site.Lies.stands {s : Site} (h : s.Lies lang text) (hs : s.tree.Consistent lang) :
    s.node.Stands text := by
  obtain ⟨before, after, hat, hlaid⟩ := h
  obtain ⟨pad, body, rfl, hstart, hstop⟩ := exists_ends hs hat.2 hlaid
  exact ⟨before ++ pad, body, hlaid.begins hat.1, hstart, hstop⟩

/-- A leaf shows all that it stands for. -/
theorem shown_leaf {s : Site} (hs : s.tree.Consistent lang) {before after : List Char}
    (hoffset : s.offset = Extent.ofText before)
    (h : Token.Laid lang text before s.tree.tokens after) (hleaf : s.tree.children = []) :
    Text.Shown text (Text.byteLength before) (Text.byteLength after) [s.node] := by
  obtain ⟨t, offset, depth, field⟩ := s
  cases t with
  | branch b cs =>
    obtain rfl : cs = [] := hleaf
    cases h
    exact .refl _ _
  | token k =>
    simp only [tokens_token] at h
    cases h with
    | cons first rest =>
      cases rest
      obtain ⟨pad, body, post, rfl, rfl, hplaced | ⟨-, -, -, rfl, rfl⟩⟩ := first
      · have hstart : (⟨.token k, offset, depth, field⟩ : Site).node.start
            = Extent.ofText (before ++ pad) := by
          rw [Extent.ofText_append, ← hoffset, ← hplaced.padding]
          rfl
        have hstop : (⟨.token k, offset, depth, field⟩ : Site).node.stop
            = Extent.ofText (before ++ pad ++ body) := by
          rw [Extent.ofText_append, ← hstart, ← hplaced.size]
          rfl
        have hgap := Text.Shown.of_gap hplaced.gap (body ++ post) []
        have hbody := Text.Shown.of_node post hstart hstop
        rw [← List.append_assoc] at hgap
        simpa using hgap.append hbody
      · simpa using .refl _ _

/-- **Every node of a tree whose tokens are laid out over a text stands over a site that lies in the
text.**  What holds of the tree and is handed on to children holds of the tree at the site. -/
theorem exists_site_of_laid {P : Tree → Prop} (hP : ∀ t, P t → ∀ c ∈ t.children, P c) {t : Tree}
    (ht : t.Consistent lang) (hroot : P t) (h : Token.Laid lang text [] t.tokens text) :
    ∀ o ∈ (t.outline lang).all, ∃ s : Site, s.tree.Consistent lang ∧ P s.tree ∧ s.Lies lang text
      ∧ (s.tree = t ∨ lang.isVisible s.tree.symbol = true)
      ∧ o = .mk s.node (outlines lang (s.below lang)) := by
  let top : Site := ⟨t, Extent.zero, 0, none⟩
  have hlies : top.Lies lang text := ⟨[], text, .origin text, h⟩
  intro o ho
  rw [outline, Outline.all_mk] at ho
  rcases List.mem_cons.mp ho with rfl | ho
  · have hnode : top.node = t.root := by simp [top, Site.node, Tree.root]
    exact ⟨top, ht, hroot, hlies, .inl rfl, by rw [hnode]⟩
  · obtain ⟨s, ⟨hs, hPs, hslies⟩, hvisible, rfl⟩ := exists_site lang
      (P := fun s => s.tree.Consistent lang ∧ P s.tree ∧ s.Lies lang text)
      (fun s hs s' hs' => ⟨hs.1.of_mem (Site.tree_mem_of_below lang hs'),
        hP _ hs.2.1 _ (Site.tree_mem_of_below lang hs'), hs.2.2.childSites hs.1 _ _ _ _ s' hs'⟩)
      (fun s hs s' hs' => ⟨hs.1.of_mem (Site.tree_mem_of_inside lang hs'),
        hP _ hs.2.1 _ (Site.tree_mem_of_inside lang hs'), hs.2.2.childSites hs.1 _ _ _ _ s' hs'⟩)
      (top.below lang)
      (fun s' hs' => ⟨ht.of_mem (Site.tree_mem_of_below lang hs'),
        hP _ hroot _ (Site.tree_mem_of_below lang hs'), hlies.childSites ht _ _ _ _ s' hs'⟩) o ho
    exact ⟨s, hs, hPs, hslies, .inr hvisible, rfl⟩

/-- A node shows the text but gaps if what is below it does.  A leaf has nothing below it and shows its
text itself. -/
theorem shown_site {s : Site} {before after : List Char} (hs : s.tree.Consistent lang)
    (hoffset : s.offset = Extent.ofText before)
    (hlaid : Token.Laid lang text before s.tree.tokens after)
    (hbelow : Token.Laid lang text before (tokensOf ((s.below lang).map (·.tree))) after →
      Text.Shown text (Text.byteLength before) (Text.byteLength after)
        (Outline.leavesOf (outlines lang (s.below lang)))) :
    Text.Shown text (Text.byteLength before) (Text.byteLength after)
      (Outline.mk s.node (outlines lang (s.below lang))).leaves := by
  by_cases hleaf : s.tree.children = []
  · have hnil : s.below lang = [] := by simp [Site.below, hleaf, childSites]
    rw [hnil, outlines_nil]
    simpa using shown_leaf hs hoffset hlaid hleaf
  · have htokens : s.tree.tokens = tokensOf s.tree.children := by
      cases htree : s.tree with
      | token k => exact absurd (by rw [htree]; rfl) hleaf
      | branch b cs => exact tokens_branch b cs
    have hshown := hbelow (by rw [s.map_tree_below lang, ← htokens]; exact hlaid)
    refine hshown.mono fun n hn => ?_
    cases hos : outlines lang (s.below lang) with
    | nil => simp [hos] at hn
    | cons o os =>
      rw [hos] at hn
      rw [Outline.leaves_mk _ (by simp)]
      exact hn

/-- **The leaves of the outlines of sites that stand one behind the other show the text but
gaps.** -/
theorem shown_outlines (hlossless : lang.Lossless) (sites : List Site) :
    ∀ offset before after, Sited offset sites → offset = Extent.ofText before →
      (∀ s ∈ sites, s.tree.Consistent lang) →
      Token.Laid lang text before (tokensOf (sites.map (·.tree))) after →
      Text.Shown text (Text.byteLength before) (Text.byteLength after)
        (Outline.leavesOf (outlines lang sites)) := by
  induction sites using sites_induction lang with
  | nil =>
    intro offset before after _ _ _ hlaid
    cases hlaid
    exact .refl _ _
  | visible s rest h below ih =>
    rintro offset before after ⟨rfl, hsited⟩ hoffset hconsistent hlaid
    have hs := hconsistent s (List.mem_cons_self ..)
    rw [List.map_cons, tokensOf_cons] at hlaid
    obtain ⟨mid, hfirst, hlast⟩ := hlaid.split
    have htotal : s.offset + s.tree.totalSize = Extent.ofText mid := by
      have hone : ∀ t ∈ [s.tree], t.Consistent lang := fun t ht => List.mem_singleton.mp ht ▸ hs
      rw [total_of_laid hone (by simpa using hfirst), ← hoffset]
      simp
    have hshown := ih _ mid after hsited htotal
      (fun s hs => hconsistent s (List.mem_cons_of_mem _ hs)) hlast
    have hnode := shown_site hs hoffset hfirst <|
      below s.offset before mid (sited_childSites lang _ _ _ _ _ _) hoffset
        fun s' hs' => hs.of_mem (Site.tree_mem_of_below lang hs')
    rw [outlines_cons_visible lang h, Outline.leavesOf_cons]
    exact hnode.append hshown
  | invisible s rest h ih =>
    rintro offset before after ⟨rfl, hsited⟩ hoffset hconsistent hlaid
    have hs := hconsistent s (List.mem_cons_self ..)
    rw [outlines_cons_invisible lang h]
    have hall : ∀ s' ∈ s.inside lang ++ rest, s'.tree.Consistent lang := by
      intro s' hs'
      rcases List.mem_append.mp hs' with hs' | hs'
      · exact hs.of_mem (Site.tree_mem_of_inside lang hs')
      · exact hconsistent s' (List.mem_cons_of_mem _ hs')
    cases htree : s.tree with
    | branch b cs =>
      have hinside : Sited s.offset (s.inside lang) := sited_childSites lang _ _ _ _ _ _
      have hmap : (s.inside lang).map (·.tree) = cs := by
        rw [s.map_tree_inside lang, htree]
        rfl
      have htotal : totalSizes cs = s.tree.totalSize := by
        rw [htree] at hs ⊢
        exact hs.root.fits.totalSize.symm
      refine ih s.offset before after (hinside.append ?_) hoffset hall ?_
      · rw [hmap, htotal]
        exact hsited
      · rw [List.map_append, hmap, tokensOf_append, ← tokens_branch b cs, ← htree, ← tokensOf_cons]
        exact hlaid
    | token k =>
      have hnil : s.inside lang = [] := by simp [Site.inside, htree, Tree.children, childSites]
      rw [hnil, List.nil_append] at ih hall ⊢
      rw [List.map_cons, htree, tokensOf_cons, tokens_token] at hlaid
      cases hlaid with
      | @cons _ mid _ _ _ first hlast =>
        have htoken : (Tree.token k).Consistent lang := htree ▸ hs
        have hvisible : lang.isVisible k.symbol = false := by
          simpa [htree, Tree.symbol] using h
        have htotal : s.offset + s.tree.totalSize = Extent.ofText mid := by
          have hone : ∀ t ∈ [s.tree], t.Consistent lang :=
            fun t ht => List.mem_singleton.mp ht ▸ hs
          rw [total_of_laid hone (by simpa [htree] using Token.Laid.one first), ← hoffset]
          simp
        have hshown := ih _ mid after hsited htotal hall hlast
        have hhidden := shown_hidden hlossless htoken.of_token hvisible first
        simpa using hhidden.append hshown

end Tree

end SyntaxKit
