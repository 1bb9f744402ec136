import SyntaxKit.Proofs.Tree.Fitting

/-!
# The text of a derived tree is a program

The tokens of a derived tree, extras apart, are a word of its rule when everything is expanded
(`Tree.Derived.word_lexical`).  If they are laid out over a text, then they spell it, with extras
wherever there is something between them (`Token.Laid.spells`).
-/

namespace SyntaxKit

open Grammar Lexer

variable {lang : Language} {g : Listed} {text : List Char}

namespace Tree

/-- The kinds of some tokens, without those that stand beside the grammar. -/
def tokenKinds (lang : Language) (ks : List Token) : List Kind :=
  (ks.filter fun k => !k.extra).map fun k => lang.kindOf k.symbol

theorem tokenKinds_append (ks ks' : List Token) :
    tokenKinds lang (ks ++ ks') = tokenKinds lang ks ++ tokenKinds lang ks' := by
  simp [tokenKinds]

theorem mem_tokensOf {k : Token} {ts : List Tree} :
    k ∈ tokensOf ts ↔ ∃ t ∈ ts, k ∈ t.tokens := by
  induction ts with
  | nil => simp
  | cons t ts ih => simp [ih]

theorem Every.of_mem_tokens {onToken : Token → Prop} {onBranch : Branch → List Tree → Prop}
    {t : Tree} (h : t.Every onToken onBranch) : ∀ k ∈ t.tokens, onToken k := by
  induction h with
  | token root => simpa using root
  | @branch b cs root children ih =>
    intro k hk
    rw [tokens_branch] at hk
    obtain ⟨c, hc, hk⟩ := mem_tokensOf.mp hk
    exact ih c hc k hk

/-- No token is missing in what costs nothing. -/
theorem Consistent.missing_of_costless {t : Tree} (h : t.Consistent lang)
    (hcost : t.errorCost = 0) : ∀ k ∈ t.tokens, k.missing = false := by
  induction h with
  | @token k root =>
    rw [tokens_token]
    simp only [List.mem_singleton, forall_eq]
    rw [errorCost] at hcost
    by_contra htrue
    simp [htrue, prices] at hcost
  | @branch b cs root children ih =>
    intro k hk
    rw [tokens_branch] at hk
    obtain ⟨c, hc, hk⟩ := mem_tokensOf.mp hk
    exact ih c hc ((Consistent.costless (.branch root children) hcost).2 c hc) k hk

/-- What is shown of a derived tree when only tokens show are its tokens. -/
theorem Derived.kinds_letters {t : Tree} (h : t.Derived lang g) (hextra : t.isExtra = false)
    (f : Option String) :
    (t.letters lang (fun s => decide (s < lang.tokenCount)) f).map (·.kind)
      = tokenKinds lang t.tokens := by
  induction h generalizing f with
  | @token k root =>
    have hfalse : k.extra = false := hextra
    rw [letters_token, if_pos (by simpa using root.bound), tokens_token, tokenKinds]
    simp [hfalse]
  | @branch b cs root children ih =>
    rw [letters_branch, if_neg (by simpa using root.bound.1), tokens_branch]
    -- extras are tokens, and not counted
    have hall : ∀ (cs : List Tree) (index : Nat), (∀ c ∈ cs, c.Derived lang g) →
        (∀ c ∈ cs, c.isExtra = false → ∀ f,
          (c.letters lang (fun s => decide (s < lang.tokenCount)) f).map (·.kind)
            = tokenKinds lang c.tokens) →
        (lettersOf lang (fun s => decide (s < lang.tokenCount)) f b.production cs index).map (·.kind)
          = tokenKinds lang (tokensOf cs) := by
      intro cs
      induction cs with
      | nil => intros; rfl
      | cons c cs ihcs =>
        intro index hcs hkinds
        have hrest := fun index => ihcs index (fun c hc => hcs c (List.mem_cons_of_mem _ hc))
          fun c hc => hkinds c (List.mem_cons_of_mem _ hc)
        rw [lettersOf_cons, tokensOf_cons, tokenKinds_append]
        split
        · next hc =>
          have htokens : tokenKinds lang c.tokens = [] := by
            cases hcs c (List.mem_cons_self ..) with
            | @token k root =>
              have htrue : k.extra = true := hc
              simp [tokenKinds, htrue]
            | branch root children => exact absurd (hc.symm.trans root.grammar) (by simp)
          rw [htokens, hrest]
          rfl
        · next hc =>
          rw [List.map_append, hkinds c (List.mem_cons_self ..) (by simpa using hc), hrest]
    exact hall cs 0 children fun c hc hextra f => ih c hc hextra f

/-- **The tokens of a derived tree of the start rule are a word of it.** -/
theorem Derived.word_lexical
    (hcuts : Cuts lang g (fun s => decide (s < lang.tokenCount)) g.lexical) {b : Branch}
    {cs : List Tree} (h : (branch b cs).Derived lang g) (hlist : g.list? (.rule g.start) = none)
    (hstart : lang.kindOf b.symbol = .rule g.start) :
    ∃ w, Word g.lexical none (.item (.rule g.start)) w
      ∧ w.map (·.kind) = tokenKinds lang (branch b cs).tokens := by
  have hextra : (branch b cs).isExtra = false := (Every.of_branch h).grammar
  have hfills := fills hcuts h hextra none (h.word hcuts)
  have hkeeps : g.inner.keeps (.rule g.start) = true := by simp [Listed.inner, hlist]
  have hitem := hfills.item (by simpa [symbol, hstart] using hkeeps)
  rw [symbol, hstart] at hitem
  exact ⟨_, hitem, h.kinds_letters hextra none⟩

end Tree

/-! ## Spelling a text -/

namespace Grammar

variable {g : Grammar}

theorem Spells.space (hspace : ∀ c, Text.isSpace c = true → ∃ p ∈ g.extras, p.Matches [c])
    {pad : List Char} (hpad : ∀ c ∈ pad, Text.isSpace c = true) {ks : List Kind}
    {rest : List Char} (h : g.Spells ks rest) : g.Spells ks (pad ++ rest) := by
  induction pad with
  | nil => exact h
  | cons c pad ih =>
    obtain ⟨p, hp, hmatches⟩ := hspace c (hpad c (List.mem_cons_self ..))
    rw [List.cons_append, ← List.singleton_append]
    exact .extra hp hmatches (ih fun d hd => hpad d (List.mem_cons_of_mem _ hd))

end Grammar

namespace Token

/-- A token that lies in a text and is not missing spells its part of it behind the gap. -/
theorem Lies.exists_body {k : Token} {before after : List Char}
    (h : k.Lies lang text before after) (hmissing : k.missing = false) :
    ∃ pad body post, after = before ++ pad ++ body ∧ Placed lang before pad body post k := by
  obtain ⟨pad, body, post, -, hafter, hplaced | ⟨htrue, -⟩⟩ := h
  · exact ⟨pad, body, post, hafter, hplaced⟩
  · exact absurd (htrue.symm.trans hmissing) (by simp)

/-- The text of a token in front of a text that is spelled. -/
theorem Derived.spells (hlang : lang.Orderly) (hlossless : lang.Lossless)
    (hlexed : lang.Lexed g.toGrammar) {k : Token} (hk : k.Derived lang g)
    {before pad body post : List Char} (hplaced : Placed lang before pad body post k)
    {ks : List Token} {rest : List Char} (h : g.Spells (Tree.tokenKinds lang ks) rest) :
    g.Spells (Tree.tokenKinds lang (k :: ks)) (body ++ rest) := by
  have hkinds : Tree.tokenKinds lang (k :: ks)
      = (if k.extra then [] else [lang.kindOf k.symbol]) ++ Tree.tokenKinds lang ks := by
    cases hextra : k.extra <;> simp [Tree.tokenKinds, hextra]
  rw [hkinds]
  rcases hplaced.spelt with herror | hlexeme | ⟨hend, rfl, -⟩
  · have hlt := Nat.lt_of_lt_of_le hk.bound hlang.tokens
    rw [herror] at hlt
    exact absurd hlt (by decide)
  · obtain ⟨p, front, behind, hp, rfl, hmatches, hspace⟩ := hlexed.split hlexeme
    have hbehind := h.space hlexed.space hspace
    rw [List.append_assoc]
    split
    · next hextra =>
      obtain ⟨p', hp', hpattern⟩ := hk.extra hextra (hlexeme.ne_endOfText hlossless)
      obtain rfl : p = p' := Option.some.inj (hp.symm.trans hpattern)
      exact .extra hp' hmatches hbehind
    · exact .token hp hmatches hbehind
  · have hextra : k.extra = true := by
      by_contra hfalse
      exact hk.grammar (by simpa using hfalse) hend
    rw [if_pos hextra]
    exact h

/-- **Tokens that are laid out over a part of a text spell it**, behind a byte-order mark if that is
where the text begins. -/
theorem Laid.spells (hlang : lang.Orderly) (hlossless : lang.Lossless)
    (hlexed : lang.Lexed g.toGrammar) {ks : List Token} {before after : List Char}
    (h : Laid lang text before ks after) :
    (∀ k ∈ ks, k.Derived lang g ∧ k.missing = false) →
      ∃ part rest, after = before ++ part ∧ g.Spells (Tree.tokenKinds lang ks) rest
        ∧ (part = rest ∨ before = [] ∧ part = byteOrderMark :: rest) := by
  induction h with
  | nil before => exact fun _ => ⟨[], [], by simp, .nil, .inl rfl⟩
  | @cons before mid after k ks first _ ih =>
    intro hks
    obtain ⟨hk, hmissing⟩ := hks k (List.mem_cons_self ..)
    obtain ⟨part, rest, rfl, hspells, hpart⟩ := ih fun k hk => hks k (List.mem_cons_of_mem _ hk)
    obtain ⟨pad, body, post, rfl, hplaced⟩ := first.exists_body hmissing
    have htoken := hk.spells hlang hlossless hlexed hplaced hspells
    refine ⟨pad ++ body ++ part, ?_⟩
    rcases hplaced.gap with hspace | ⟨rfl, pad, rfl, hspace⟩
    · have hall := htoken.space hlexed.space hspace
      rcases hpart with rfl | ⟨hnil, rfl⟩
      · exact ⟨_, by simp, hall, .inl (by simp)⟩
      · -- nothing stands before the mark
        obtain ⟨rfl, rfl, rfl⟩ : before = [] ∧ pad = [] ∧ body = [] := by simpa using hnil
        exact ⟨_, by simp, hall, .inr ⟨rfl, by simp⟩⟩
    · have hall := htoken.space hlexed.space hspace
      rcases hpart with rfl | ⟨hnil, -⟩
      · exact ⟨_, by simp, hall, .inr ⟨rfl, by simp⟩⟩
      · simp at hnil

end Token

end SyntaxKit
