import SyntaxKit.Proofs.Lexer.Lexeme
import SyntaxKit.Proofs.Tree.Consistent

/-!
# Trees laid out over a text

A token lies in a text where its padding is a gap and its own text follows (`Token.Lies`); the
tokens of a tree are laid out over a part of the text if each lies directly behind the one before
it (`Token.Laid`).  In a consistent tree the sizes then say where everything is: the padding of a tree
measures the gap before its first token and its size the text from there to its last token
(`Tree.Consistent.measures`).
-/

namespace SyntaxKit

/-! ## Positions in a text -/

/-- A position of a text is the extent of what is before it. -/
def Text.At (text : List Char) (position : Extent) (front : List Char) : Prop :=
  front <+: text ∧ position = Extent.ofText front

theorem Text.At.eq_of_bytes {text front front' : List Char} {p p' : Extent}
    (h : Text.At text p front) (h' : Text.At text p' front') (hbytes : p'.bytes = p.bytes) :
    front' = front ∧ p' = p := by
  obtain ⟨⟨rest, rfl⟩, rfl⟩ := h
  obtain ⟨⟨rest', htext⟩, rfl⟩ := h'
  rw [Extent.bytes_ofText, Extent.bytes_ofText] at hbytes
  obtain ⟨rfl, -⟩ := Text.append_inj_of_byteLength htext hbytes
  exact ⟨rfl, rfl⟩

theorem Text.At.origin (text : List Char) : Text.At text Extent.zero [] :=
  ⟨List.nil_prefix, rfl⟩

/-! ## Tokens in a text -/

open Lexer

variable {lang : Language} {text : List Char}

/-- A token lies in a text between the end of `before` and that of `after`, which begins with
`before`: it stands there, or it is missing and nothing is there. -/
def Token.Lies (lang : Language) (text before : List Char) (k : Token) (after : List Char) : Prop :=
  ∃ pad body post, text = before ++ pad ++ body ++ post ∧ after = before ++ pad ++ body
    ∧ (Placed lang before pad body post k
      ∨ k.missing = true ∧ k.padding = Extent.zero ∧ k.size = Extent.zero ∧ pad = [] ∧ body = [])

/-- Some tokens lie in a text one directly behind the other. -/
inductive Token.Laid (lang : Language) (text : List Char) :
    List Char → List Token → List Char → Prop
  | nil (before : List Char) : Laid lang text before [] before
  | cons {before mid after : List Char} {k : Token} {ks : List Token}
      (first : k.Lies lang text before mid) (rest : Laid lang text mid ks after) :
      Laid lang text before (k :: ks) after

namespace Token

theorem Lies.begins {k : Token} {before after : List Char} (h : k.Lies lang text before after) :
    after <+: text := by
  obtain ⟨pad, body, post, htext, rfl, -⟩ := h
  exact ⟨post, htext.symm⟩

/-- Where a token lies does not depend on whether it stands beside the grammar. -/
theorem Lies.withExtra {k : Token} {before after : List Char} (h : k.Lies lang text before after)
    (extra : Bool) : ({ k with extra } : Token).Lies lang text before after := by
  obtain ⟨pad, body, post, htext, hafter, hplaced | hmissing⟩ := h
  · exact ⟨pad, body, post, htext, hafter,
      .inl ⟨hplaced.gap, hplaced.padding, hplaced.size, hplaced.spelt, hplaced.word⟩⟩
  · exact ⟨pad, body, post, htext, hafter, .inr hmissing⟩

theorem Laid.append {before mid after : List Char} {ks ks' : List Token}
    (h : Laid lang text before ks mid) (h' : Laid lang text mid ks' after) :
    Laid lang text before (ks ++ ks') after := by
  induction h with
  | nil before => exact h'
  | cons first rest ih => exact .cons first (ih h')

theorem Laid.split {before after : List Char} {ks ks' : List Token}
    (h : Laid lang text before (ks ++ ks') after) :
    ∃ mid, Laid lang text before ks mid ∧ Laid lang text mid ks' after := by
  induction ks generalizing before with
  | nil => exact ⟨before, .nil before, h⟩
  | cons k ks ih =>
    cases h with
    | cons first rest =>
      obtain ⟨mid, hleft, hright⟩ := ih rest
      exact ⟨mid, .cons first hleft, hright⟩

theorem Laid.one {k : Token} {before after : List Char} (h : k.Lies lang text before after) :
    Laid lang text before [k] after := .cons h (.nil after)

theorem Laid.begins {before after : List Char} {ks : List Token}
    (h : Laid lang text before ks after) (hbefore : before <+: text) : after <+: text := by
  induction h with
  | nil before => exact hbefore
  | cons first rest ih => exact ih first.begins

end Token

namespace Tree

/-- The sizes of a tree measure the text that its tokens lie over, wherever that is. -/
def Measures (lang : Language) (text : List Char) (t : Tree) : Prop :=
  ∀ before after, Token.Laid lang text before t.tokens after →
    ∃ pad body, after = before ++ pad ++ body ∧ t.padding = Extent.ofText pad
      ∧ t.size = Extent.ofText body

theorem exists_of_laid_tokensOf {ts : List Tree} (hts : ∀ t ∈ ts, t.Measures lang text)
    {before after : List Char} (h : Token.Laid lang text before (tokensOf ts) after) :
    ∃ rest, after = before ++ rest ∧ totalSizes ts = Extent.ofText rest := by
  induction ts generalizing before with
  | nil =>
    cases h
    exact ⟨[], by simp, by simp⟩
  | cons t ts ih =>
    rw [tokensOf_cons] at h
    obtain ⟨mid, hfirst, hrest⟩ := h.split
    obtain ⟨pad, body, rfl, hpadding, hsize⟩ := hts t (List.mem_cons_self ..) _ _ hfirst
    obtain ⟨rest, rfl, htotal⟩ := ih (fun t ht => hts t (List.mem_cons_of_mem _ ht)) hrest
    refine ⟨pad ++ body ++ rest, by simp, ?_⟩
    rw [totalSizes_cons, htotal, totalSize, hpadding, hsize, Extent.ofText_append,
      Extent.ofText_append]

/-- **The sizes of a consistent tree measure the text that its tokens lie over.** -/
theorem Consistent.measures {t : Tree} (h : t.Consistent lang) : t.Measures lang text := by
  induction h with
  | @token k root =>
    intro before after h
    rw [tokens_token] at h
    cases h with
    | cons first rest =>
      cases rest
      obtain ⟨pad, body, post, -, rfl, hplaced | ⟨-, hpadding, hsize, rfl, rfl⟩⟩ := first
      · exact ⟨pad, body, rfl, hplaced.padding, hplaced.size⟩
      · exact ⟨[], [], rfl, hpadding, hsize⟩
  | @branch b cs root children ih =>
    intro before after h
    rw [tokens_branch] at h
    cases cs with
    | nil =>
      cases h
      exact ⟨[], [], by simp, root.fits⟩
    | cons c cs =>
      rw [tokensOf_cons] at h
      obtain ⟨mid, hfirst, hrest⟩ := h.split
      obtain ⟨pad, body, rfl, hpadding, hsize⟩ := ih c (List.mem_cons_self ..) _ _ hfirst
      obtain ⟨rest, rfl, htotal⟩ :=
        exists_of_laid_tokensOf (fun c hc => ih c (List.mem_cons_of_mem _ hc)) hrest
      refine ⟨pad, body ++ rest, by simp, root.fits.1.trans hpadding, ?_⟩
      rw [show (branch b (c :: cs)).size = b.size from rfl, root.fits.2, hsize, htotal,
        Extent.ofText_append]

/-- What the tokens of consistent trees lie over is as large as the trees. -/
theorem total_of_laid {ts : List Tree} (hts : ∀ t ∈ ts, t.Consistent lang)
    {before after : List Char} (h : Token.Laid lang text before (tokensOf ts) after) :
    Extent.ofText after = Extent.ofText before + totalSizes ts := by
  obtain ⟨rest, rfl, htotal⟩ := exists_of_laid_tokensOf (fun t ht => (hts t ht).measures) h
  rw [Extent.ofText_append, htotal]

end Tree

end SyntaxKit
