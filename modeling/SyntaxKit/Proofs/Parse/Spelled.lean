import SyntaxKit.Proofs.Parse.Paid
import SyntaxKit.Proofs.Tree.Layout

/-!
# Every tree of a parse spells its text

A parse from scratch reads its tokens where they stand in the text, one behind the other, and
whatever it puts on a stack keeps the tokens below it in their order.  So the tokens of what lies
between two places of a stack are laid out over the text between the positions of these places
(`Law.spelled`), and the tokens of a complete tree are laid out over the whole text.

No text is lost in the root, where the children of the last subtree take its place, since that subtree is
no token (`Law.Chain.top_ne_token`).
-/

namespace SyntaxKit

open Lexer

variable {lang : Language} {text : List Char}

/-! ## The law -/

/-- The tokens of a subtree lie in the text between two places. -/
def Tree.Between (lang : Language) (text : List Char) (a : Spot) (t : Tree) (b : Spot) : Prop :=
  ∀ front, Text.At text a.position front →
    ∃ after, Text.At text b.position after ∧ Token.Laid lang text front t.tokens after

/-- What a stack holds is paid for and spells the text. -/
def Law.spelled (lang : Language) (text : List Char) : Law where
  stands a := ∃ front, Text.At text a.position front
  step a t b := (Law.paid lang Cutting.anywhere).step a t b ∧ (∃ front, Text.At text b.position front)
    ∧ b.position = (a.reach t b.state).position ∧ ∀ u, t = some u → u.Between lang text a b
  waits p t := (Law.paid lang Cutting.anywhere).waits p t ∧ ∃ k front pad body post, t = .token k
    ∧ Text.At text p front ∧ text = front ++ pad ++ body ++ post
    ∧ Placed lang front pad body post k
  faces _ _ := True
  tops _ := True
  divides _ := False
  spare _ _ := False
  whole t := t.Paid lang ∧ Token.Laid lang text [] t.tokens text
  stands_of_step h := h.2.1
  step_congr {a t b b'} h hstands hstate hbytes hcost := by
    obtain ⟨hpaid, ⟨front, hfront⟩, hposition, htree⟩ := h
    obtain ⟨front', hfront'⟩ := hstands
    have heq : b' = b := by
      obtain ⟨-, hpositions⟩ := hfront.eq_of_bytes hfront' hbytes
      cases b
      cases b'
      simp_all
    rw [heq]
    exact ⟨hpaid, ⟨front, hfront⟩, hposition, htree⟩
  bytes_of_step h := h.1.1
  cost_of_step h := (Law.paid lang Cutting.anywhere).cost_of_step h.1
  waits_congr {p t a} h ha hbytes := by
    obtain ⟨hpaid, k, front, pad, body, post, ht, hfront, hplaced⟩ := h
    obtain ⟨front', hfront'⟩ := ha
    obtain ⟨-, hposition⟩ := hfront.eq_of_bytes hfront' hbytes
    exact ⟨hposition ▸ hpaid, k, front, pad, body, post, ht, hposition ▸ hfront, hplaced⟩
  spare_children := @Law.none_spare

namespace Law

variable {env : Setting}

/-! ### Chains -/

theorem Chain.mono {L L' : Law} (hstep : ∀ {a t b}, L.step a t b → L'.step a t b) {a b : Spot}
    {ts : List Tree} {n : Nat} (h : L.Chain a ts n b) : L'.Chain a ts n b := by
  induction h with
  | nil a => exact .nil a
  | mark first rest ih => exact .mark (hstep first) ih
  | tree first rest ih => exact .tree (hstep first) ih

theorem Chain.paidChain {a b : Spot} {ts : List Tree} {n : Nat}
    (h : (Law.spelled lang text).Chain a ts n b) : (Law.paid lang Cutting.anywhere).Chain a ts n b :=
  h.mono fun {_ _ _} (hstep : (Law.spelled lang text).step _ _ _) => hstep.1

/-- The tokens of what lies on a stack are laid out over the text. -/
theorem Chain.laid {a b : Spot} {ts : List Tree} {n : Nat}
    (h : (Law.spelled lang text).Chain a ts n b) {front : List Char}
    (ha : Text.At text a.position front) :
    ∃ after, Text.At text b.position after
      ∧ Token.Laid lang text front (Tree.tokensOf ts) after
      ∧ b.position = a.position + Tree.totalSizes ts := by
  induction h generalizing front with
  | nil a => exact ⟨front, ha, by simpa using .nil front, by simp⟩
  | mark first rest ih =>
    obtain ⟨-, -, hposition, -⟩ := first
    have hsame : _ = _ := hposition
    rw [Spot.reach] at hsame
    simp only at hsame
    rw [hsame] at ih
    exact ih ha
  | @tree a m b t ts n first rest ih =>
    obtain ⟨-, -, hposition, htree⟩ := first
    obtain ⟨mid, hmid, hlaid⟩ := htree t rfl front ha
    obtain ⟨after, hafter, hrest, hpositions⟩ := ih hmid
    refine ⟨after, hafter, ?_, ?_⟩
    · rw [Tree.tokensOf_cons]
      exact hlaid.append hrest
    · rw [hpositions, hposition, Spot.reach, Tree.totalSizes_cons, Extent.add_assoc]

/-! ### Steps -/

/-- A subtree leads to the end of what its tokens lie over. -/
theorem at_reach {a : Spot} {u : Tree} {front after : List Char}
    (hfront : Text.At text a.position front) (hlaid : Token.Laid lang text front u.tokens after)
    (hu : u.Consistent lang) (state : ParseState) :
    Text.At text (a.reach (some u) state).position after := by
  have hone : ∀ t ∈ [u], t.Consistent lang := fun t ht => List.mem_singleton.mp ht ▸ hu
  have htotal := Tree.total_of_laid hone (by simpa using hlaid)
  refine ⟨hlaid.begins hfront.1, ?_⟩
  rw [htotal, ← hfront.2]
  simp [Spot.reach]

/-- A subtree may be pushed where its tokens lie, if that is allowed by what is paid. -/
theorem spelled_step {a : Spot} {u : Tree} {state : ParseState} {front after : List Char}
    (hfront : Text.At text a.position front) (hlaid : Token.Laid lang text front u.tokens after)
    (hpaid : (Law.paid lang Cutting.anywhere).step a (some u) (a.reach (some u) state)) :
    (Law.spelled lang text).step a (some u) (a.reach (some u) state) := by
  have hreach := at_reach hfront hlaid (hpaid.2.2.2.2.1 u rfl).consistent state
  refine ⟨hpaid, ⟨after, hreach⟩, rfl, fun t ht front' hfront' => ?_⟩
  obtain rfl : u = t := Option.some.inj ht
  obtain ⟨rfl, -⟩ := hfront.eq_of_bytes hfront' rfl
  exact ⟨after, hreach, hlaid⟩

/-- What stands beside the grammar may be pushed where its tokens lie. -/
theorem spelled_row {state : ParseState} (extras : List Tree) :
    ∀ {a : Spot} {front after : List Char}, Text.At text a.position front →
      Token.Laid lang text front (Tree.tokensOf extras) after →
      (Law.paid lang Cutting.anywhere).Row state a extras →
      (Law.spelled lang text).Row state a extras := by
  induction extras with
  | nil => exact fun _ _ _ => trivial
  | cons e rest ih =>
    intro a front after hfront hlaid hpaid
    rw [Tree.tokensOf_cons] at hlaid
    obtain ⟨mid, hfirst, hrest⟩ := hlaid.split
    obtain ⟨hstep, hsteps⟩ := hpaid
    have hconsistent := (hstep.2.2.2.2.1 e rfl).consistent
    exact ⟨spelled_step hfront hfirst hstep,
      ih (at_reach hfront hfirst hconsistent state) hrest hsteps⟩

/-! ### Parsing keeps to it -/

/-- The token that a reading waits with, or goes on with. -/
theorem exists_of_part {p : Extent} {t : Tree} (h : (Law.spelled lang text).Part p t) :
    (Law.spelled lang text).waits p t := by
  obtain ⟨u, tooLarge, hwaits, rfl⟩ := h
  obtain ⟨k, -, -, -, -, rfl, -⟩ := hwaits.2
  exact hwaits

/-- A token that is shifted. -/
theorem spelled_shift {a : Spot} {t : Tree} {extra : Bool} {state : ParseState}
    (h : (Law.spelled lang text).waits a.position t)
    (hpaid : (Law.paid lang Cutting.anywhere).step a (some (t.shifted extra))
      (a.reach (some (t.shifted extra)) state)) :
    (Law.spelled lang text).step a (some (t.shifted extra))
      (a.reach (some (t.shifted extra)) state) := by
  obtain ⟨-, k, front, pad, body, post, rfl, hfront, htext, hplaced⟩ := h
  have hlies : k.Lies lang text front (front ++ pad ++ body) :=
    ⟨pad, body, post, htext, rfl, .inl hplaced⟩
  rw [Tree.shifted_token] at hpaid ⊢
  exact spelled_step hfront (.one (hlies.withExtra extra)) hpaid

/-- A token that is missing. -/
theorem spelled_missing {a : Spot} {token : Symbol} {looked : Nat} {state : ParseState}
    (ha : (Law.spelled lang text).stands a)
    (hpaid : (Law.paid lang Cutting.anywhere).step a
      (some (Tree.missingToken token Extent.zero looked))
      (a.reach (some (Tree.missingToken token Extent.zero looked)) state)) :
    (Law.spelled lang text).step a (some (Tree.missingToken token Extent.zero looked))
      (a.reach (some (Tree.missingToken token Extent.zero looked)) state) := by
  obtain ⟨front, ⟨rest, htext⟩, hposition⟩ := ha
  have hlies : ∀ k : Token, k.missing = true → k.padding = Extent.zero → k.size = Extent.zero →
      k.Lies lang text front front := fun k hmissing hpadding hsize =>
    ⟨[], [], rest, by simp [htext], by simp, .inr ⟨hmissing, hpadding, hsize, rfl, rfl⟩⟩
  exact spelled_step ⟨⟨rest, htext⟩, hposition⟩ (.one (hlies _ rfl rfl rfl)) hpaid

/-- What is wrapped when a reading goes back to an earlier state. -/
theorem spelled_wrap (hlang : env.lang.Orderly) {a m b : Spot} {error : Option Tree}
    {trees children extras : List Tree} {count count' : Nat} (ha : (Law.spelled env.lang text).stands a)
    (hm : m.state ≠ ParseState.recovering)
    (hchain : (Law.spelled env.lang text).Chain m trees count b)
    (herror : error = none ∧ a = m ∨ ∃ e, error = some e ∧ e.isError = true
      ∧ (Law.spelled env.lang text).Chain a [e] count' m)
    (hsplit : (error.map Tree.children).getD [] ++ trees = children ++ extras)
    (hextras : ∀ e ∈ extras, e.isExtra = true) :
    if children = [] then (Law.spelled env.lang text).Row m.state a extras
    else (Law.spelled env.lang text).step a (some ((Tree.ofChildren env.lang env.generation
          Symbol.error 0 children).setExtra true))
        (a.reach (some ((Tree.ofChildren env.lang env.generation Symbol.error 0
          children).setExtra true)) m.state)
      ∧ (Law.spelled env.lang text).Row m.state (a.reach (some ((Tree.ofChildren env.lang
          env.generation Symbol.error 0 children).setExtra true)) m.state) extras := by
  obtain ⟨front, hfront⟩ := ha
  -- the tokens of what is wrapped, together with those of the error below it
  have hall : ∃ after, Token.Laid env.lang text front (Tree.tokensOf (children ++ extras)) after := by
    rw [← hsplit]
    rcases herror with ⟨rfl, rfl⟩ | ⟨e, rfl, herror, hbelow⟩
    · obtain ⟨after, -, hlaid, -⟩ := hchain.laid hfront
      exact ⟨after, hlaid⟩
    · have held := (hbelow.paidChain.step_of_singleton hm).2.2.2.2.1 e rfl
      obtain ⟨mid, hmid, hinner, -⟩ := hbelow.laid hfront
      obtain ⟨after, -, houter, -⟩ := hchain.laid hmid
      refine ⟨after, ?_⟩
      have htokens : e.tokens = Tree.tokensOf e.children := by
        cases held.consistent with
        | branch root _ => exact Tree.tokens_branch _ _
        | @token k root =>
          have hfalse := root.error (by simpa [Tree.isError, Tree.symbol] using herror)
          have htrue : k.extra = true := (held.leads hm).error herror
          exact absurd (htrue.symm.trans hfalse) (by simp)
      rw [Tree.tokensOf_append, Option.map_some, Option.getD_some, ← htokens]
      rw [Tree.tokensOf_cons, Tree.tokensOf_nil, List.append_nil] at hinner
      exact hinner.append houter
  obtain ⟨after, hlaid⟩ := hall
  have hpaid := @paid_wrap env Cutting.anywhere hlang a m b error trees children extras count count'
    trivial hm hchain.paidChain
    (herror.imp_right fun h => h.imp fun e h => ⟨h.1, h.2.1, h.2.2.paidChain⟩) hsplit hextras
  split
  · next hnil =>
    rw [if_pos hnil] at hpaid
    rw [hnil, List.nil_append] at hlaid
    exact spelled_row extras hfront hlaid hpaid
  · next hne =>
    rw [if_neg hne] at hpaid
    rw [Tree.tokensOf_append] at hlaid
    obtain ⟨mid, hinner, houter⟩ := hlaid.split
    have htokens : ((Tree.ofChildren env.lang env.generation Symbol.error 0 children).setExtra
        true).tokens = Tree.tokensOf children := Tree.tokens_branch _ _
    have hnode := (hpaid.1.2.2.2.2.1 _ rfl).consistent
    exact ⟨spelled_step hfront (htokens ▸ hinner) hpaid.1,
      spelled_row extras (at_reach hfront (htokens ▸ hinner) hnode m.state) houter hpaid.2⟩

/-- The list of skipped text that a token becomes. -/
theorem tokens_skippedOver {k : Token} :
    ∃ extra, (skippedOver env (.token k)).tokens = [{ k with extra }] := by
  rw [skippedOver, Tree.tokens_ofChildren]
  split
  · exact ⟨true, by simp [Tree.setExtra]⟩
  · exact ⟨k.extra, by simp⟩

/-- A token of the text is skipped, perhaps together with what lies on top. -/
theorem spelled_skip {a b : Spot} {t node : Tree} {trees : List Tree} {n : Nat}
    (ha : (Law.spelled env.lang text).stands a)
    (hchain : (Law.spelled env.lang text).Chain a trees n b)
    (ht : (Law.spelled env.lang text).waits b.position t)
    (hpaid : (Law.paid env.lang Cutting.anywhere).step a (some node)
      (a.reach (some node) ParseState.recovering))
    (htokens : node.tokens = Tree.tokensOf trees ++ (skippedOver env t).tokens) :
    (Law.spelled env.lang text).step a (some node)
      (a.reach (some node) ParseState.recovering) := by
  obtain ⟨front, hfront⟩ := ha
  obtain ⟨mid, hmid, hlaid, -⟩ := hchain.laid hfront
  obtain ⟨-, k, front', pad, body, post, rfl, hfront', htext, hplaced⟩ := ht
  obtain ⟨rfl, -⟩ := hfront'.eq_of_bytes hmid rfl
  have hlies : k.Lies env.lang text mid (mid ++ pad ++ body) :=
    ⟨pad, body, post, htext, rfl, .inl hplaced⟩
  obtain ⟨extra, hskipped⟩ := @tokens_skippedOver env k
  have hnode : Token.Laid env.lang text front node.tokens (mid ++ pad ++ body) := by
    rw [htokens, hskipped]
    exact hlaid.append (.one (hlies.withExtra extra))
  exact spelled_step hfront hnode hpaid

/-- The token at the end of the text lies over the rest of it. -/
theorem laid_endOfText (hlossless : lang.Lossless) {p : Extent} {t : Tree} {front : List Char}
    (hfront : Text.At text p front) (ht : (Law.spelled lang text).waits p t)
    (hend : t.symbol = Symbol.endOfText) : Token.Laid lang text front t.tokens text := by
  obtain ⟨-, k, front', pad, body, post, rfl, hfront', htext, hplaced⟩ := ht
  obtain ⟨rfl, -⟩ := hfront'.eq_of_bytes hfront rfl
  have hall : body = [] ∧ post = [] := by
    rcases hplaced.spelt with herror | hlexeme | ⟨-, hall⟩
    · rw [show k.symbol = Symbol.endOfText from hend] at herror
      exact absurd herror (by decide)
    · exact absurd hend (hlexeme.ne_endOfText hlossless)
    · exact hall
  obtain ⟨rfl, rfl⟩ := hall
  rw [Tree.tokens_token]
  exact .one ⟨pad, [], [], htext, by simpa using htext, .inl hplaced⟩

@[simp] theorem tokens_settle (ambiguous : Bool) (state : ParseState) (t : Tree) :
    (Parse.settle ambiguous state t).tokens = t.tokens := by
  cases t with
  | token k => rfl
  | branch b cs => cases ambiguous <;> simp [Parse.settle]

theorem closed_paid_anywhere (hlang : env.lang.Orderly) :
    (Law.paid env.lang Cutting.anywhere).Closed env :=
  closed_paid hlang trivial fun _ _ _ => Cutting.aligned_anywhere _ _

/-- **Parsing from scratch keeps all tokens where they lie in the text.** -/
theorem closed_spelled (hlang : env.lang.Orderly) (hlossless : env.lang.Lossless)
    (hsource : env.source = Source.ofText text) : (Law.spelled env.lang text).Closed env where
  tops _ := trivial
  faces _ _ := trivial
  origin := ⟨[], .origin text⟩
  read {a} ha state := by
    obtain ⟨front, ⟨rest, rfl⟩, hposition⟩ := ha
    refine ⟨(closed_paid_anywhere hlang).read (a := a) trivial state, ?_⟩
    obtain ⟨pad, body, post, htext, hplaced⟩ :=
      @placed_next env.lang hlang hlossless front rest state
    rw [hsource, hposition]
    exact ⟨_, front, pad, body, post, rfl, ⟨⟨rest, rfl⟩, rfl⟩, htext, hplaced⟩
  word {p t} h hkeyword := by
    obtain ⟨hpaid, k, front, pad, body, post, rfl, hfront, htext, hplaced⟩ := h
    have hword := hplaced.word hkeyword
    exact ⟨(closed_paid_anywhere hlang).word hpaid hkeyword, _, front, pad, body, post, rfl, hfront, htext,
      hplaced.gap, hplaced.padding, hplaced.size, .inr (.inl (.inl hword)), hplaced.word⟩
  reuse h := absurd h id
  shift {a t next} ha h hleaf hmem := by
    have hpaid := (closed_paid_anywhere hlang).shift (a := a) trivial h.1 hleaf hmem
    exact spelled_shift h hpaid
  shiftExtra {a t} ha h hleaf hmem := by
    have hpaid := (closed_paid_anywhere hlang).shiftExtra (a := a) trivial h.1 hleaf hmem
    exact spelled_shift h hpaid
  shiftPart _ _ _ h hleaf _ := by
    obtain ⟨k, -, -, -, -, rfl, -⟩ := h.2
    exact absurd hleaf (by simp [Tree.isLeaf, Tree.children])
  reduce {a b children extras symbol count production token} ambiguous ha hchain hextras htrimmed
      hmem := by
    have hpaid := (closed_paid_anywhere hlang).reduce ambiguous (a := a) trivial hchain.paidChain hextras
      htrimmed hmem
    obtain ⟨front, hfront⟩ := ha
    obtain ⟨after, -, hlaid, -⟩ := hchain.laid hfront
    rw [Tree.tokensOf_append] at hlaid
    obtain ⟨mid, hinner, houter⟩ := hlaid.split
    have hnode := (hpaid.1.2.2.2.2.1 _ rfl).consistent
    have hlaid : Token.Laid env.lang text front (Parse.settle ambiguous a.state (Tree.ofChildren
        env.lang env.generation symbol production children)).tokens mid := by simpa using hinner
    exact ⟨spelled_step hfront hlaid hpaid.1,
      spelled_row extras (at_reach hfront hlaid hnode _) houter hpaid.2⟩
  mark {a} ha := ⟨(closed_paid_anywhere hlang).mark (a := a) trivial, ha, rfl, fun u hu => by simp at hu⟩
  missing {a token first looked} ha hpos hlt hleads hmoves hreduces :=
    spelled_missing ha
      ((closed_paid_anywhere hlang).missing (a := a) trivial hpos hlt hleads hmoves hreduces)
  wrap ha _ hm hchain herror hsplit hextras := spelled_wrap hlang ha hm hchain herror hsplit hextras
  skip {b t} hb hpart := by
    have ht := exists_of_part hpart
    have hpaid := (closed_paid_anywhere hlang).skip (b := b) trivial (part_of_waits ht.1)
    exact spelled_skip hb (.nil b) ht hpaid (by simp)
  skipOver {a b t trees count} ha _ hchain hpart := by
    have ht := exists_of_part hpart
    have hpaid := (closed_paid_anywhere hlang).skipOver (a := a) (b := b) trivial trivial hchain.paidChain
      (part_of_waits ht.1)
    exact spelled_skip ha hchain ht hpaid (by simp)
  accept {b t trees count root} hchain _ h hmem hroot := by
    have hpaid := (closed_paid_anywhere hlang).accept hchain.paidChain (b := b) trivial h.1 hmem hroot
    refine ⟨hpaid.1, ?_⟩
    obtain ⟨after, hafter, hlaid, -⟩ := hchain.laid (.origin text)
    have hleaf : t.isLeaf = true := by
      obtain ⟨k, -, -, -, -, rfl, -⟩ := h.2
      rfl
    have hend : t.symbol = Symbol.endOfText := by
      rw [← Tree.firstSymbol_of_isLeaf hleaf]
      exact hlang.accept _ _ hmem
    have hrest := laid_endOfText hlossless hafter h hend
    have hextra : t.isExtra = true := by
      obtain ⟨k, -, -, -, -, rfl, -⟩ := h.2
      exact h.1.1.of_token.endOfText hend
    -- the last subtree that is not beside the grammar is a node, whose children take its place
    obtain ⟨front, top, extras, rfl, htop, hextras, rfl⟩ :=
      Parse.rootOf_concat_eq_some hextra hroot
    have hnode := hchain.paidChain.top_ne_token hlang htop hextras hmem
    cases top with
    | token k => exact absurd rfl (hnode k)
    | branch b cs =>
      rw [Tree.tokens_ofChildren]
      have hall := hlaid.append hrest
      simpa [Tree.children] using hall
  giveUp {b t trees count root} hchain _ hpart hend hroot := by
    have h := exists_of_part hpart
    have hpaid := (closed_paid_anywhere hlang).giveUp hchain.paidChain (b := b) trivial
      (part_of_waits h.1) hend hroot
    refine ⟨hpaid.1, ?_⟩
    have hsymbol : t.symbol = Symbol.endOfText := by simpa [Tree.isEndOfText] using hend
    obtain ⟨after, hafter, hlaid, -⟩ := hchain.laid (.origin text)
    have hrest := laid_endOfText hlossless hafter h hsymbol
    have hextra : t.isExtra = true := by
      obtain ⟨k, -, -, -, -, rfl, -⟩ := h.2
      exact h.1.1.of_token.endOfText hsymbol
    rw [Parse.rootOf_append (by simp) hextra] at hroot
    obtain rfl := Option.some.inj hroot
    rw [Tree.tokens_ofChildren]
    simpa using hlaid.append hrest
  divide h := absurd h id

end Law

end SyntaxKit
