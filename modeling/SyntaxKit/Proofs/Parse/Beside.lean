import SyntaxKit.Proofs.Language.Generated
import SyntaxKit.Proofs.Parse.Spelled

/-!
# What stands beside the grammar

Wherever it is in a tree, what is marked as standing beside the grammar is the end of the text, an
extra of the grammar, or text in error (`Tree.Beside`).  A parse from scratch keeps to that
(`Law.closed_beside`).
-/

namespace SyntaxKit

variable {lang : Language} {g : Grammar.Listed}

/-- A token beside the grammar is the end of the text or an extra. -/
def Token.Beside (lang : Language) (g : Grammar.Listed) (k : Token) : Prop :=
  k.extra = true → k.symbol = Symbol.endOfText
    ∨ k.symbol < lang.tokenCount ∧ ∃ p ∈ g.extras, g.pattern? (lang.kindOf k.symbol) = some p

/-- All tokens beside the grammar are the end of the text or extras, and all branches beside it text
in error. -/
def Tree.Beside (lang : Language) (g : Grammar.Listed) (t : Tree) : Prop :=
  t.Every (Token.Beside lang g) fun b _ => b.extra = true → b.symbol = Symbol.error

namespace Tree

theorem beside_ofChildren {generation : Nat} {symbol : Symbol} {production : Nat} {cs : List Tree}
    (hcs : ∀ c ∈ cs, c.Beside lang g) :
    (ofChildren lang generation symbol production cs).Beside lang g := by
  have hextra : (ofChildren lang generation symbol production cs).isExtra = false := by simp
  rw [ofChildren_eq] at hextra ⊢
  exact .branch (fun h => absurd (hextra.symm.trans h) (by simp)) hcs

theorem Beside.settle {t : Tree} (h : t.Beside lang g) (ambiguous : Bool) (state : ParseState) :
    (Parse.settle ambiguous state t).Beside lang g := by
  cases h with
  | token root => exact .token root
  | branch root children => cases ambiguous <;> exact .branch root children

/-- Text in error may be put beside the grammar. -/
theorem beside_error {generation : Nat} {cs : List Tree} (hcs : ∀ c ∈ cs, c.Beside lang g) :
    ((ofChildren lang generation Symbol.error 0 cs).setExtra true).Beside lang g := by
  have hsymbol : (ofChildren lang generation Symbol.error 0 cs).symbol = Symbol.error := by simp
  rw [ofChildren_eq] at hsymbol ⊢
  exact .branch (fun _ => hsymbol) hcs

end Tree

/-- A token that has been read: only the end of the text is marked. -/
def Token.Read (k : Token) : Prop :=
  (k.extra = true → k.symbol = Symbol.endOfText) ∧ (k.keyword = true → k.extra = false)

theorem Token.Read.beside {k : Token} (h : k.Read) : (Tree.token k).Beside lang g :=
  .token fun hextra => .inl (h.1 hextra)

theorem Lexer.read_next (hlang : lang.Orderly) (hlossless : lang.Lossless) (src : Source)
    (state : ParseState) (pos : Extent) : (Lexer.next lang src state pos).Read := by
  rw [next]
  split
  · exact ⟨by simp, by simp⟩
  · next symbol start stop furthest hread =>
    have hclassify : ∀ symbol : Symbol, (if symbol = lang.wordToken
        then classify lang src state start stop else (symbol, false)).2 = true →
          (if symbol = lang.wordToken then classify lang src state start stop
            else (symbol, false)).1 ≠ Symbol.endOfText := by
      intro symbol hkeyword
      split
      · rw [classify]
        split
        · next bytes symbol hkeyword =>
          obtain ⟨word, rest, hmem, -, -⟩ := beginsWith_of_keywordAt? hkeyword
          split
          · exact (hlossless.keywords _ hmem).1
          · exact hlang.word.2.1
        · exact hlang.word.2.1
      · next hword => simp [hword] at hkeyword
    have hkind := hclassify symbol
    generalize (if symbol = lang.wordToken then classify lang src state start stop
      else (symbol, false)) = kind at hkind
    refine ⟨fun hextra => ?_, fun hkeyword => ?_⟩
    · simpa using hextra
    · simpa using hkind hkeyword

/-! ## The law -/

/-- Only extras, text in error and the end of the text stand beside the grammar. -/
def Law.beside (lang : Language) (g : Grammar.Listed) : Law where
  stands _ := True
  step a t b := b.position.bytes = a.position.bytes + (t.map fun t => t.totalSize.bytes).getD 0
    ∧ (∀ u, t = some u → u.Beside lang g)
    ∧ b.cost = a.cost + (t.map Tree.errorCost).getD 0
  waits _ t := ∃ k, t = .token k ∧ k.Read
  faces _ _ := True
  tops _ := True
  divides _ := False
  spare _ _ := False
  whole t := t.Beside lang g
  stands_of_step _ := trivial
  step_congr h _ _ hbytes hcost := by
    rw [hbytes, hcost]
    exact h
  bytes_of_step h := h.1
  cost_of_step h := h.2.2
  waits_congr h _ _ := h
  spare_children := @Law.none_spare

namespace Law

variable {env : Setting}

theorem beside_step {a : Spot} {t : Tree} {state : ParseState} (ht : t.Beside lang g) :
    (Law.beside lang g).step a (some t) (a.reach (some t) state) := by
  refine ⟨rfl, fun u hu => ?_, rfl⟩
  obtain rfl : t = u := by simpa using hu
  exact ht

theorem beside_row {state : ParseState} (extras : List Tree) :
    ∀ {a : Spot}, (∀ e ∈ extras, e.Beside lang g) → (Law.beside lang g).Row state a extras := by
  induction extras with
  | nil => exact fun _ => trivial
  | cons e rest ih =>
    intro a hextras
    exact ⟨beside_step (hextras e (List.mem_cons_self ..)),
      ih fun x hx => hextras x (List.mem_cons_of_mem _ hx)⟩

theorem Chain.beside {a b : Spot} {ts : List Tree} {n : Nat}
    (h : (Law.beside lang g).Chain a ts n b) : ∀ t ∈ ts, t.Beside lang g := by
  intro t ht
  obtain ⟨a, b, -, hstep, -⟩ := h.step_of_mem ht
  exact hstep t rfl

theorem beside_wrap {a m b : Spot} {error : Option Tree} {trees children extras : List Tree}
    {count count' : Nat} (hchain : (Law.beside env.lang g).Chain m trees count b)
    (herror : error = none ∧ a = m ∨ ∃ e, error = some e ∧ e.isError = true
      ∧ (Law.beside env.lang g).Chain a [e] count' m)
    (hsplit : (error.map Tree.children).getD [] ++ trees = children ++ extras) :
    if children = [] then (Law.beside env.lang g).Row m.state a extras
    else (Law.beside env.lang g).step a (some ((Tree.ofChildren env.lang env.generation
          Symbol.error 0 children).setExtra true))
        (a.reach (some ((Tree.ofChildren env.lang env.generation Symbol.error 0
          children).setExtra true)) m.state)
      ∧ (Law.beside env.lang g).Row m.state (a.reach (some ((Tree.ofChildren env.lang
          env.generation Symbol.error 0 children).setExtra true)) m.state) extras := by
  have hall : ∀ c ∈ children ++ extras, c.Beside env.lang g := by
    rw [← hsplit]
    intro c hc
    rcases List.mem_append.mp hc with hc | hc
    · rcases herror with ⟨rfl, -⟩ | ⟨e, rfl, -, hbelow⟩
      · simp at hc
      · exact Tree.Every.of_mem (hbelow.beside e (List.mem_singleton_self e)) hc
    · exact hchain.beside c hc
  have hrow := fun e he => hall e (List.mem_append_right children he)
  split
  · exact beside_row extras hrow
  · exact ⟨beside_step (Tree.beside_error fun c hc => hall c (List.mem_append_left _ hc)),
      beside_row extras hrow⟩

/-- What a token becomes when it is skipped. -/
theorem beside_skippedOver (hgen : env.lang.Generated g) {p : Extent} {t : Tree}
    (h : (Law.beside env.lang g).Part p t) : (skippedOver env t).Beside env.lang g := by
  obtain ⟨u, tooLarge, ⟨k, rfl, hk⟩, rfl⟩ := h
  refine Tree.beside_ofChildren fun c hc => ?_
  rw [List.mem_singleton] at hc
  subst hc
  split
  · next hextra =>
    have hmem : .shiftExtra ∈ env.lang.actions ParseState.initial k.symbol := by
      rw [Parse.isExtraToken] at hextra
      split at hextra
      · next hlast => exact List.mem_of_getLast? hlast
      · simp at hextra
    exact .token fun _ => .inr ⟨(Language.mem_actions hmem).1, hgen.extra hmem⟩
  · exact hk.beside

theorem beside_root {trees : List Tree} {root : Tree} (hroot : Parse.rootOf env trees = some root)
    (htrees : ∀ t ∈ trees, t.Beside env.lang g) : root.Beside env.lang g := by
  obtain ⟨front, top, extras, rfl, -, -, rfl⟩ := Parse.rootOf_eq_some hroot
  refine Tree.beside_ofChildren fun c hc => ?_
  rcases List.mem_append.mp hc with hc | hc
  · rcases List.mem_append.mp hc with hc | hc
    · exact htrees c (List.mem_append_left _ hc)
    · exact Tree.Every.of_mem (htrees top (by simp)) hc
  · exact htrees c (by simp [hc])

theorem beside_of_part {p : Extent} {t : Tree} (h : (Law.beside lang g).Part p t) :
    t.Beside lang g := by
  obtain ⟨u, tooLarge, ⟨k, rfl, hk⟩, rfl⟩ := h
  exact hk.beside

/-- **A parse from scratch puts nothing else beside the grammar.** -/
theorem closed_beside (hlang : env.lang.Orderly) (hlossless : env.lang.Lossless)
    (hgen : env.lang.Generated g) : (Law.beside env.lang g).Closed env where
  tops _ := trivial
  faces _ _ := trivial
  origin := trivial
  read _ _ := ⟨_, rfl, Lexer.read_next hlang hlossless ..⟩
  word {p t} h hkeyword := by
    obtain ⟨k, rfl, hk⟩ := h
    have hextra := hk.2 hkeyword
    exact ⟨_, rfl, fun htrue => absurd (hextra.symm.trans htrue) (by simp), hk.2⟩
  reuse h := absurd h id
  shift {a t next} _ h _ _ := by
    obtain ⟨k, rfl, hk⟩ := h
    refine beside_step ?_
    rw [Tree.shifted]
    split
    · exact .token (by simp [Token.Beside])
    · exact hk.beside
  shiftExtra {a t} _ h _ hmem := by
    obtain ⟨k, rfl, hk⟩ := h
    refine beside_step ?_
    rw [Tree.shifted]
    split
    · exact .token fun _ => .inr ⟨(Language.mem_actions hmem).1, hgen.extra hmem⟩
    · exact hk.beside
  shiftPart _ _ _ h hleaf _ := by
    obtain ⟨k, rfl, -⟩ := h
    exact absurd hleaf (by simp [Tree.isLeaf, Tree.children])
  reduce {a b children extras symbol count production token} ambiguous _ hchain _ _ _ := by
    have hall := hchain.beside
    exact ⟨beside_step ((Tree.beside_ofChildren fun c hc =>
        hall c (List.mem_append_left _ hc)).settle ambiguous a.state),
      beside_row extras fun e he => hall e (List.mem_append_right _ he)⟩
  mark _ := ⟨rfl, by simp, rfl⟩
  missing _ _ _ _ _ _ := beside_step (.token (by simp [Token.Beside]))
  wrap _ _ _ hchain herror hsplit _ := beside_wrap hchain herror hsplit
  skip _ hpart := beside_step (beside_skippedOver hgen hpart)
  skipOver _ _ hchain hpart := by
    refine beside_step (Tree.beside_ofChildren fun c hc => ?_)
    rcases List.mem_append.mp hc with hc | hc
    · exact hchain.beside c hc
    · rw [List.mem_singleton] at hc
      exact hc ▸ beside_skippedOver hgen hpart
  accept {b t trees count root} hchain _ h _ hroot := by
    refine beside_root hroot fun u hu => ?_
    rcases List.mem_append.mp hu with hu | hu
    · exact hchain.beside u hu
    · rw [List.mem_singleton] at hu
      exact hu ▸ beside_of_part (part_of_waits h)
  giveUp {b t trees count root} hchain _ hpart _ hroot := by
    refine beside_root hroot fun u hu => ?_
    rcases List.mem_append.mp hu with hu | hu
    · exact hchain.beside u hu
    · simp only [List.mem_cons, List.not_mem_nil, or_false] at hu
      rcases hu with rfl | rfl
      · exact Tree.beside_ofChildren (by simp)
      · exact beside_of_part hpart
  divide h := absurd h id

end Law

end SyntaxKit
