import SyntaxKit.Parse.Recover
import SyntaxKit.Proofs.Language.Orderly
import SyntaxKit.Proofs.Lexer.Abreast
import SyntaxKit.Proofs.Lexer.Lexeme

/-!
# Tokens read at one place

What token is read at a place depends on the state in which it is read, but not by much: if two tokens
have been read at one place (`Lexer.Heard`), they are the same, or one of them is read instead of the
other one where that is of no use (`Language.Yields`).

Tokens that stand beside the grammar are read in one way only, whatever else is to be read.  So what
comes behind all of them is the same, whoever looks (`Lexer.Followed.reaches`).
-/

namespace SyntaxKit

/-- What is read instead of a token has nothing read instead of it and is no word, and it is clear what
is read instead of a token. -/
structure Accord.Clear (d : Accord) (lang : Language) : Prop where
  word : lang.wordToken ∉ d.anywhere ∧ ∀ x ∈ d.instead, x.1 ≠ lang.wordToken ∧ x.2 ≠ lang.wordToken
  keyword : ∀ word ∈ lang.keywords, word.2 ≠ lang.wordToken ∧ ∀ x ∈ d.instead, x.1 ≠ word.2
  /-- Neither words nor keywords are text in error or read anywhere. -/
  plain : lang.wordToken ≠ Symbol.error
    ∧ ∀ word ∈ lang.keywords, word.2 ≠ Symbol.error ∧ word.2 ∉ d.anywhere
  once : ∀ x ∈ d.instead, ∀ y ∈ d.instead, x.2 ≠ y.1 ∧ (x.1 = y.1 → x.2 = y.2)
  known : ∀ x ∈ d.instead, x.1 ≠ Symbol.error ∧ x.2 ≠ Symbol.error ∧ x.1 ∉ d.anywhere
  /-- What stands beside the grammar is not read instead of anything, nor is anything read instead
  of it. -/
  beside : ∀ s < lang.tokenCount, Parse.isExtraToken lang s = true →
    s ≠ Symbol.error ∧ s ∉ d.anywhere ∧ s ≠ lang.wordToken
      ∧ (∀ word ∈ lang.keywords, word.2 ≠ s) ∧ ∀ x ∈ d.instead, x.1 ≠ s ∧ x.2 ≠ s

/-- A token is read instead of another one where there is nothing to be done with that: it is what the
other one begins with, or an identifier. -/
def Language.Yields (lang : Language) (d : Accord) (x y : Symbol) : Prop :=
  (y, x) ∈ d.instead ∨ x = lang.wordToken ∧ ∃ word, (word, y) ∈ lang.keywords

namespace Lexer

variable {lang : Language} {d : Accord} {src : Source} {pos : Extent}

/-- What is read from the state of recovery. -/
abbrev reference (lang : Language) (src : Source) (pos : Extent) : Find :=
  find (scan lang src (lang.lexState ParseState.recovering) pos)

/-- The identifier between two places is a keyword. -/
def KeywordAt (lang : Language) (src : Source) (start stop : Extent) (y : Symbol) : Prop :=
  ∃ bytes, keywordAt? lang (src.suffixAt start.bytes) = some (bytes, y)
    ∧ start.bytes + bytes = stop.bytes

/-- The token has been read at a position, in its state, and perhaps been taken as an identifier. -/
structure Heard (lang : Language) (src : Source) (pos : Extent) (k : Token) : Prop where
  padding : k.padding = (next lang src k.state pos).padding
  size : k.size = (next lang src k.state pos).size
  keyword : k.keyword = (next lang src k.state pos).keyword
  symbol : k.symbol = (next lang src k.state pos).symbol
    ∨ k.symbol = lang.wordToken ∧ (next lang src k.state pos).keyword = true

@[simp] theorem state_next (state : ParseState) : (next lang src state pos).state = state := by
  rw [next]
  split <;> rfl

theorem heard_next (state : ParseState) : Heard lang src pos (next lang src state pos) where
  padding := by rw [state_next]
  size := by rw [state_next]
  keyword := by rw [state_next]
  symbol := .inl (by rw [state_next])

theorem Heard.asWord {k : Token} (h : Heard lang src pos k) (hkeyword : k.keyword = true) :
    Heard lang src pos { k with symbol := lang.wordToken } :=
  ⟨h.padding, h.size, h.keyword, .inr ⟨rfl, h.keyword ▸ hkeyword⟩⟩

theorem Heard.withExtra {k : Token} (h : Heard lang src pos k) (extra : Bool) :
    Heard lang src pos { k with extra } :=
  ⟨h.padding, h.size, h.keyword, h.symbol⟩

theorem KeywordAt.exists_mem {start stop : Extent} {y : Symbol} (h : KeywordAt lang src start stop y) :
    ∃ word, (word, y) ∈ lang.keywords := by
  obtain ⟨bytes, hkeyword, -⟩ := h
  obtain ⟨word, -, hmem, -⟩ := beginsWith_of_keywordAt? hkeyword
  exact ⟨word, hmem⟩

theorem KeywordAt.eq {start stop : Extent} {y z : Symbol} (hy : KeywordAt lang src start stop y)
    (hz : KeywordAt lang src start stop z) : y = z := by
  obtain ⟨bytes, hkeyword, -⟩ := hy
  obtain ⟨bytes', hkeyword', -⟩ := hz
  rw [hkeyword] at hkeyword'
  exact (Prod.mk.inj (Option.some.inj hkeyword')).2

variable (lang src) in
/-- What is read between two places as an identifier, in a state. -/
theorem classify_cases (state : ParseState) (start stop : Extent) :
    ((classify lang src state start stop).1 = lang.wordToken
      ∨ KeywordAt lang src start stop (classify lang src state start stop).1)
      ∧ ∀ y, KeywordAt lang src start stop y → (classify lang src state start stop).2 = true
        ∧ (lang.hasActions state y = true → (classify lang src state start stop).1 = y) := by
  rw [classify]
  split
  · next bytes symbol hkeyword =>
    split
    · next hends =>
      rw [Bool.and_eq_true, decide_eq_true_eq] at hends
      have hat : KeywordAt lang src start stop symbol := ⟨bytes, hkeyword, hends.1⟩
      exact ⟨.inr hat, fun y hy => ⟨rfl, fun _ => hat.eq hy⟩⟩
    · next hends =>
      refine ⟨.inl rfl, fun y hy => ⟨rfl, fun hactions => absurd ?_ hends⟩⟩
      obtain ⟨bytes', hkeyword', hstop⟩ := hy
      rw [hkeyword] at hkeyword'
      obtain ⟨rfl, rfl⟩ := Prod.mk.inj (Option.some.inj hkeyword')
      rw [hactions, decide_eq_true hstop]
      rfl
  · next hnone =>
    refine ⟨.inl rfl, fun y hy => ?_⟩
    obtain ⟨bytes, hkeyword, -⟩ := hy
    rw [hnone] at hkeyword
    simp at hkeyword

/-- A token stands between two places, where it is read as `raw`. -/
structure Between (lang : Language) (src : Source) (pos start stop : Extent) (raw : Symbol) (k : Token) :
    Prop where
  padding : k.padding = start - pos
  size : k.size = stop - start
  plain : raw ≠ lang.wordToken → k.symbol = raw
  word : raw = lang.wordToken → k.symbol = lang.wordToken ∨ KeywordAt lang src start stop k.symbol
  keyword : raw = lang.wordToken → ∀ y, KeywordAt lang src start stop y → k.keyword = true

variable (lang src pos) in
theorem next_cases (state : ParseState) : (next lang src state pos).symbol = Symbol.error
    ∧ (next lang src state pos).keyword = false ∨ ∃ raw start stop,
      (read lang src state pos).1 = .token raw start stop
        ∧ Between lang src pos start stop raw (next lang src state pos)
        ∧ (raw ≠ lang.wordToken → (next lang src state pos).keyword = false)
        ∧ (raw = lang.wordToken → ∀ y, KeywordAt lang src start stop y →
          lang.hasActions state y = true → (next lang src state pos).symbol = y) := by
  rw [next]
  split
  · exact .inl ⟨rfl, rfl⟩
  · next raw start stop furthest hread =>
    refine .inr ⟨raw, start, stop, congrArg Prod.fst hread, ?_⟩
    have hclassify := classify_cases lang src state start stop
    by_cases hword : raw = lang.wordToken
    · rw [if_pos hword]
      exact ⟨⟨rfl, rfl, fun h => absurd hword h, fun _ => hclassify.1,
        fun _ y hy => (hclassify.2 y hy).1⟩, fun h => absurd hword h, fun _ y hy => (hclassify.2 y hy).2⟩
    · rw [if_neg hword]
      exact ⟨⟨rfl, rfl, fun _ => rfl, fun h => absurd h hword, fun h => absurd h hword⟩,
        fun _ => rfl, fun h => absurd h hword⟩

/-- What has been heard is text in error, or stands between two places, as what is read there. -/
theorem Heard.cases {k : Token} (h : Heard lang src pos k) : k.symbol = Symbol.error
    ∨ ∃ raw start stop, (read lang src k.state pos).1 = .token raw start stop
      ∧ Between lang src pos start stop raw k := by
  rcases next_cases lang src pos k.state with
    ⟨herror, hplain⟩ | ⟨raw, start, stop, hread, hbetween, hplain, -⟩
  · rcases h.symbol with hsymbol | ⟨-, hkeyword⟩
    · exact .inl (hsymbol.trans herror)
    · exact absurd (hkeyword.symm.trans hplain) (by simp)
  · refine .inr ⟨raw, start, stop, hread, h.padding.trans hbetween.padding,
      h.size.trans hbetween.size, fun hraw => ?_, fun hraw => ?_,
      fun hraw y hy => h.keyword.trans (hbetween.keyword hraw y hy)⟩
    · rcases h.symbol with hsymbol | ⟨-, hkeyword⟩
      · exact hsymbol.trans (hbetween.plain hraw)
      · exact absurd (hkeyword.symm.trans (hplain hraw)) (by simp)
    · rcases h.symbol with hsymbol | ⟨hsymbol, -⟩
      · rw [hsymbol]
        exact hbetween.word hraw
      · exact .inl hsymbol

/-! ## Two tokens at one place -/

/-- What is read from the state of recovery is the token, or one instead of which it is read. -/
def Refers (d : Accord) (x : Find) (start stop : Extent) (raw : Symbol) : Prop :=
  x.1 = start ∧ (x.2 = some (raw, stop)
    ∨ ∃ raw' stop', x.2 = some (raw', stop') ∧ (raw', raw) ∈ d.instead)

section Accordant

variable (hd : lang.Accordant d) (hclear : d.Clear lang)

include hd hclear

/-- What has been heard is what is read from the state of recovery, or is read instead of it. -/
theorem Heard.refers {k : Token} (h : Heard lang src pos k) (herror : k.symbol ≠ Symbol.error)
    (hany : k.symbol ∉ d.anywhere) : ∃ raw start stop,
      Between lang src pos start stop raw k ∧ Refers d (reference lang src pos) start stop raw := by
  obtain ⟨raw, start, stop, hread, hbetween⟩ := h.cases.resolve_left herror
  refine ⟨raw, start, stop, hbetween, ?_⟩
  refine (hd.read hread raw stop rfl).resolve_left fun hraw => ?_
  by_cases hword : raw = lang.wordToken
  · exact hclear.word.1 (hword ▸ hraw)
  · exact hany (hbetween.plain hword ▸ hraw)

/-- **Two tokens that are read at one place are the same, or one yields to the other one.** -/
theorem Heard.same_or_yields {k k' : Token} (h : Heard lang src pos k) (h' : Heard lang src pos k')
    (herror : k.symbol ≠ Symbol.error) (hany : k.symbol ∉ d.anywhere)
    (herror' : k'.symbol ≠ Symbol.error) (hany' : k'.symbol ∉ d.anywhere) :
    k.symbol = k'.symbol ∨ lang.Yields d k.symbol k'.symbol ∨ lang.Yields d k'.symbol k.symbol := by
  obtain ⟨raw, start, stop, hk, hstart, href⟩ := h.refers hd hclear herror hany
  obtain ⟨raw', start', stop', hk', hstart', href'⟩ := h'.refers hd hclear herror' hany'
  obtain rfl : start = start' := hstart.symm.trans hstart'
  have hplain : ∀ x ∈ d.instead, x.1 ≠ lang.wordToken ∧ x.2 ≠ lang.wordToken := hclear.word.2
  rcases href with href | ⟨t, _, href, hmem⟩
  · rcases href' with href' | ⟨t', _, href', hmem'⟩
    · -- both are what is read from the state of recovery
      rw [href] at href'
      obtain ⟨rfl, rfl⟩ := Prod.mk.inj (Option.some.inj href')
      by_cases hword : raw = lang.wordToken
      · rcases hk.word hword with hsymbol | hat <;> rcases hk'.word hword with hsymbol' | hat'
        · exact .inl (hsymbol.trans hsymbol'.symm)
        · exact .inr (.inl (.inr ⟨hsymbol, hat'.exists_mem⟩))
        · exact .inr (.inr (.inr ⟨hsymbol', hat.exists_mem⟩))
        · exact .inl (hat.eq hat')
      · exact .inl ((hk.plain hword).trans (hk'.plain hword).symm)
    · rw [href] at href'
      obtain ⟨rfl, -⟩ := Prod.mk.inj (Option.some.inj href')
      have hwords := hplain _ hmem'
      rw [hk.plain hwords.1, hk'.plain hwords.2]
      exact .inr (.inr (.inl hmem'))
  · rcases href' with href' | ⟨t', _, href', hmem'⟩
    · rw [href] at href'
      obtain ⟨rfl, -⟩ := Prod.mk.inj (Option.some.inj href')
      have hwords := hplain _ hmem
      rw [hk.plain hwords.2, hk'.plain hwords.1]
      exact .inr (.inl (.inl hmem))
    · rw [href] at href'
      obtain ⟨rfl, -⟩ := Prod.mk.inj (Option.some.inj href')
      rw [hk.plain (hplain _ hmem).2, hk'.plain (hplain _ hmem').2]
      exact .inl ((hclear.once _ hmem _ hmem').2 rfl)

/-- A token that is not read instead of another one and is no word has one extent. -/
theorem Heard.eq_of_symbol {k k' : Token} (h : Heard lang src pos k) (h' : Heard lang src pos k')
    (hsymbol : k'.symbol = k.symbol) (herror : k.symbol ≠ Symbol.error)
    (hany : k.symbol ∉ d.anywhere) (hword : k.symbol ≠ lang.wordToken)
    (hkeyword : ∀ word ∈ lang.keywords, word.2 ≠ k.symbol)
    (hinstead : ∀ x ∈ d.instead, x.2 ≠ k.symbol) : k'.padding = k.padding ∧ k'.size = k.size := by
  -- what is read from the state of recovery is the token
  have hall : ∀ k₁ : Token, Heard lang src pos k₁ → k₁.symbol = k.symbol → ∃ start stop,
      reference lang src pos = (start, some (k.symbol, stop)) ∧ k₁.padding = start - pos
        ∧ k₁.size = stop - start := by
    intro k₁ h₁ hsymbol
    obtain ⟨raw, start, stop, hk, hstart, href⟩ :=
      h₁.refers hd hclear (hsymbol ▸ herror) (hsymbol ▸ hany)
    have hraw : raw ≠ lang.wordToken := by
      intro hraw
      rcases hk.word hraw with h | h
      · exact hword (hsymbol ▸ h)
      · obtain ⟨word, hmem⟩ := h.exists_mem
        exact hkeyword _ hmem hsymbol
    obtain rfl : raw = k.symbol := (hk.plain hraw).symm.trans hsymbol
    rcases href with href | ⟨t, -, -, hmem⟩
    · exact ⟨start, stop, Prod.ext hstart href, hk.padding, hk.size⟩
    · exact absurd rfl (hinstead _ hmem)
  obtain ⟨start, stop, href, hpadding, hsize⟩ := hall k h rfl
  obtain ⟨start', stop', href', hpadding', hsize'⟩ := hall k' h' hsymbol
  rw [href] at href'
  obtain ⟨rfl, hfound⟩ := Prod.mk.inj href'
  obtain ⟨-, rfl⟩ := Prod.mk.inj (Option.some.inj hfound)
  exact ⟨hpadding'.trans hpadding.symm, hsize'.trans hsize.symm⟩

/-! ## Tokens that are not to be read in another way -/

/-- What other tokens are read instead of is read from the state of recovery, if it is read at all. -/
theorem Heard.reference_of_instead {k : Token} (h : Heard lang src pos k) {x : Symbol}
    (hmem : (k.symbol, x) ∈ d.instead) :
    ∃ start stop, reference lang src pos = (start, some (k.symbol, stop)) := by
  obtain ⟨herror, -, hany⟩ := hclear.known _ hmem
  obtain ⟨raw, start, stop, hk, hstart, href⟩ := h.refers hd hclear herror hany
  have hraw : raw ≠ lang.wordToken := by
    intro hraw
    rcases hk.word hraw with hword | hat
    · exact (hclear.word.2 _ hmem).1 hword
    · obtain ⟨word, hkeyword⟩ := hat.exists_mem
      exact (hclear.keyword _ hkeyword).2 _ hmem rfl
  obtain rfl : k.symbol = raw := hk.plain hraw
  rcases href with href | ⟨t, _, -, hmem'⟩
  · exact ⟨start, stop, Prod.ext hstart href⟩
  · exact absurd rfl ((hclear.once _ hmem' _ hmem).1)

/-- A keyword is read as an identifier, where one has been heard. -/
theorem Heard.keywordAt {k : Token} (h : Heard lang src pos k)
    (hkeyword : ∃ word, (word, k.symbol) ∈ lang.keywords) {start stop : Extent}
    (href : Refers d (reference lang src pos) start stop lang.wordToken) :
    KeywordAt lang src start stop k.symbol := by
  obtain ⟨word, hword⟩ := hkeyword
  obtain ⟨herror, hany⟩ := hclear.plain.2 _ hword
  obtain ⟨raw, start', stop', hk, hstart', href'⟩ := h.refers hd hclear herror hany
  obtain ⟨hstart, href⟩ := href
  obtain rfl : start = start' := hstart.symm.trans hstart'
  replace href := href.resolve_right fun ⟨t, _, _, hmem⟩ => (hclear.word.2 _ hmem).2 rfl
  rcases href' with href' | ⟨t, _, href', hmem⟩
  · rw [href] at href'
    obtain ⟨rfl, rfl⟩ := Prod.mk.inj (Option.some.inj href')
    exact (hk.word rfl).resolve_left (hclear.keyword _ hword).1
  · rw [href] at href'
    obtain ⟨rfl, -⟩ := Prod.mk.inj (Option.some.inj href')
    exact absurd rfl (hclear.word.2 _ hmem).1

end Accordant

end Lexer

/-! ## What follows behind comments -/

/-- Only tokens stand beside the grammar. -/
theorem Parse.lt_of_isExtraToken {lang : Language} {s : Symbol}
    (h : isExtraToken lang s = true) : s < lang.tokenCount := by
  by_contra hle
  rw [isExtraToken, Language.actions_eq_nil (Nat.le_of_not_lt hle)] at h
  simp at h

namespace Lexer

variable {lang : Language} {d : Accord} {src : Source} {pos : Extent}

/-- Behind some tokens that stand beside the grammar, if any, there is a position of which something
holds. -/
inductive Followed (lang : Language) (src : Source) (holds : Extent → Prop) : Extent → Prop
  | here {pos : Extent} (found : holds pos) : Followed lang src holds pos
  | behind {pos : Extent} {k : Token} (heard : Heard lang src pos k)
      (extra : Parse.isExtraToken lang k.symbol = true)
      (rest : Followed lang src holds (pos + (Tree.token k).totalSize)) : Followed lang src holds pos

theorem Followed.mono {holds holds' : Extent → Prop} (h : Followed lang src holds pos)
    (himp : ∀ p, holds p → holds' p) : Followed lang src holds' pos := by
  induction h with
  | here found => exact .here (himp _ found)
  | behind heard extra _ ih => exact .behind heard extra ih

/-- A token of the grammar that is in accord with what is read from the state of recovery. -/
structure Plain (lang : Language) (d : Accord) (s : Symbol) : Prop where
  error : s ≠ Symbol.error
  anywhere : s ∉ d.anywhere
  extra : Parse.isExtraToken lang s = false

section Accordant

variable (hd : lang.Accordant d) (hclear : d.Clear lang)

include hd hclear

/-- Where something has been heard that stands beside the grammar nothing else is heard. -/
theorem Heard.symbol_eq_of_extra {k k' : Token} (h : Heard lang src pos k)
    (hextra : Parse.isExtraToken lang k.symbol = true) (h' : Heard lang src pos k')
    (herror : k'.symbol ≠ Symbol.error) (hany : k'.symbol ∉ d.anywhere) :
    k'.symbol = k.symbol := by
  obtain ⟨hne, hnot, hword, hkeyword, hinstead⟩ :=
    hclear.beside _ (Parse.lt_of_isExtraToken hextra) hextra
  rcases h.same_or_yields hd hclear h' hne hnot herror hany with hsame | hyields | hyields
  · exact hsame.symm
  · rcases hyields with hmem | ⟨heq, -⟩
    · exact absurd rfl (hinstead _ hmem).2
    · exact absurd heq hword
  · rcases hyields with hmem | ⟨-, word, hmem⟩
    · exact absurd rfl (hinstead _ hmem).1
    · exact absurd rfl (hkeyword _ hmem)

/-- **What comes behind everything that stands beside the grammar is the same**, whoever looks. -/
theorem Followed.reaches {holds : Extent → Prop} (h : Followed lang src holds pos)
    (hholds : ∀ p, holds p → ∃ k, Heard lang src p k ∧ Plain lang d k.symbol) {stop : Extent}
    {k' : Token} (hk' : Heard lang src stop k') (hplain : Plain lang d k'.symbol)
    (hstop : Followed lang src (· = stop) pos) : holds stop := by
  induction h with
  | here found =>
    obtain ⟨k, hk, hkplain⟩ := hholds _ found
    cases hstop with
    | here heq => exact heq ▸ found
    | behind heard extra _ =>
      have hsame := heard.symbol_eq_of_extra hd hclear extra hk hkplain.error hkplain.anywhere
      exact absurd (extra.symm.trans (hsame ▸ hkplain.extra)) (by simp)
  | @behind pos k heard extra _ ih =>
    cases hstop with
    | here heq =>
      subst heq
      have hsame := heard.symbol_eq_of_extra hd hclear extra hk' hplain.error hplain.anywhere
      exact absurd (extra.symm.trans (hsame ▸ hplain.extra)) (by simp)
    | @behind _ k₁ heard₁ extra₁ rest₁ =>
      obtain ⟨hne, hnot, hword, hkeyword, hinstead⟩ :=
        hclear.beside _ (Parse.lt_of_isExtraToken extra) extra
      obtain ⟨hne₁, hnot₁, -⟩ := hclear.beside _ (Parse.lt_of_isExtraToken extra₁) extra₁
      have hsame := heard.symbol_eq_of_extra hd hclear extra heard₁ hne₁ hnot₁
      obtain ⟨hpadding, hsize⟩ := heard.eq_of_symbol hd hclear heard₁ hsame hne hnot hword
        hkeyword fun x hx => (hinstead x hx).2
      refine ih ?_
      have htotal : (Tree.token k₁).totalSize = (Tree.token k).totalSize := by
        rw [Tree.totalSize, Tree.totalSize, Tree.padding, Tree.padding, Tree.size, Tree.size,
          hpadding, hsize]
      rwa [htotal] at rest₁

end Accordant

end Lexer

end SyntaxKit
