import SyntaxKit.Proofs.Language.Closing
import SyntaxKit.Proofs.Parse.Derived

/-!
# Errors are charged for

As long as a reading has met no error, what it has pushed costs nothing, and it is in no recovery
(`Spot.Calm`).  A reading that has left recovery has paid for it, and whatever it does after that, the
cost stays (`Spot.Charged`).  `Law.charged` says what lies on a stack in both cases: where nothing costs
anything, recovery is entered from another state and left by no subtree, and what has been wrapped as
an error ends with something that does not stand beside the grammar.

So a complete tree of a reading that has paid costs something (`Law.advances_charged`).
-/

namespace SyntaxKit

variable {lang : Language} {g : Grammar.Listed} {text : List Char}

/-- No error has been met on the way here. -/
def Spot.Calm (a : Spot) : Prop := a.cost = 0 ∧ a.state ≠ ParseState.recovering

/-- An error has been paid for on the way here. -/
def Spot.Charged (a : Spot) : Prop := 0 < a.cost

/-- Text in error ends with something that does not stand beside the grammar. -/
def Tree.Ended (t : Tree) : Prop :=
  t.isError = true → ∃ c, t.children.getLast? = some c ∧ c.isExtra = false

theorem Tree.ended_of_symbol {t : Tree} (h : t.symbol ≠ Symbol.error) : t.Ended :=
  fun herror => absurd (by simpa [Tree.isError] using herror) h

/-- What lies on a stack where nothing costs anything does not begin in recovery, and only the mark
leads to it.  Which complete trees that cost nothing are kept and where readings may stand is given. -/
def Law.charged (lang : Language) (g : Grammar.Listed) (text : List Char) (keeps : Tree → Prop)
    (tops : Spot → Prop) : Law where
  stands := (Law.derived lang g text).stands
  step a t b := (Law.derived lang g text).step a t b
    ∧ (t = none → b.cost = 0 → a.state ≠ ParseState.recovering)
    ∧ ∀ u, t = some u → (b.cost = 0 → b.state ≠ ParseState.recovering) ∧ u.Ended
  waits p t := (Law.derived lang g text).waits p t ∧ t.errorCost = 0
  faces _ _ := True
  tops := tops
  divides _ := False
  spare _ _ := False
  whole t := keeps t ∨ 0 < t.errorCost
  stands_of_step h := (Law.derived lang g text).stands_of_step h.1
  step_congr h hstands hstate hbytes hcost :=
    ⟨(Law.derived lang g text).step_congr h.1 hstands hstate hbytes hcost, by
      rw [hstate, hcost]
      exact h.2⟩
  bytes_of_step h := (Law.derived lang g text).bytes_of_step h.1
  cost_of_step h := (Law.derived lang g text).cost_of_step h.1
  waits_congr h ha hbytes := ⟨(Law.derived lang g text).waits_congr h.1 ha hbytes, h.2⟩
  spare_children := @Law.none_spare

namespace Law

variable {env : Setting} {keeps : Tree → Prop} {tops : Spot → Prop}

/-! ## Chains -/

theorem Chain.derivedChain {a b : Spot} {ts : List Tree} {n : Nat}
    (h : (Law.charged lang g text keeps tops).Chain a ts n b) :
    (Law.derived lang g text).Chain a ts n b :=
  h.mono fun {_ _ _} (hstep : (Law.charged lang g text keeps tops).step _ _ _) => hstep.1

theorem Chain.ended {a b : Spot} {ts : List Tree} {n : Nat}
    (h : (Law.charged lang g text keeps tops).Chain a ts n b) : ∀ t ∈ ts, t.Ended := by
  intro t ht
  obtain ⟨a, b, -, -, hstep⟩ := h.step_of_mem ht
  exact (hstep t rfl).2

theorem derived_of_part {p : Extent} {u : Tree}
    (h : (Law.charged lang g text keeps tops).Part p u) : (Law.derived lang g text).Part p u := by
  obtain ⟨t, tooLarge, hwaits, rfl⟩ := h
  exact ⟨t, tooLarge, hwaits.1, rfl⟩

theorem spelled_of_part {p : Extent} {u : Tree} (h : (Law.derived lang g text).Part p u) :
    (Law.spelled lang text).Part p u := by
  obtain ⟨t, tooLarge, hwaits, rfl⟩ := h
  exact ⟨t, tooLarge, hwaits.1, rfl⟩

/-- Costs add up along a chain. -/
theorem Chain.cost_eq_zero {L : Law} {a b : Spot} {ts : List Tree} {n : Nat} (h : L.Chain a ts n b)
    (hb : b.cost = 0) : a.cost = 0 ∧ ∀ t ∈ ts, t.errorCost = 0 := by
  have hcost := h.cost
  have hsum := List.sum_eq_zero_iff_forall_eq_nat.mp
    (show (ts.map Tree.errorCost).sum = 0 by omega)
  exact ⟨by omega, fun t ht => hsum _ (List.mem_map_of_mem ht)⟩

/-! ## Steps -/

/-- A subtree may be pushed if it does not lead to recovery for nothing. -/
theorem charged_step {a : Spot} {u : Tree} {state : ParseState}
    (h : (Law.derived lang g text).step a (some u) (a.reach (some u) state))
    (hstate : (a.reach (some u) state).cost = 0 → state ≠ ParseState.recovering) (hu : u.Ended) :
    (Law.charged lang g text keeps tops).step a (some u) (a.reach (some u) state) := by
  refine ⟨h, by simp, fun v hv => ?_⟩
  obtain rfl : u = v := Option.some.inj hv
  exact ⟨hstate, hu⟩

theorem charged_row {state : ParseState} (extras : List Tree) :
    ∀ {a : Spot}, (Law.derived lang g text).Row state a extras →
      (a.cost = 0 → state ≠ ParseState.recovering) → (∀ e ∈ extras, e.Ended) →
      (Law.charged lang g text keeps tops).Row state a extras := by
  induction extras with
  | nil => exact fun _ _ _ => trivial
  | cons e rest ih =>
    intro a h hstate hended
    have hreach : (a.reach (some e) state).cost = 0 → state ≠ ParseState.recovering :=
      fun hcost => hstate (by rw [Spot.reach] at hcost; simp only at hcost; omega)
    exact ⟨charged_step h.1 hreach (hended e (List.mem_cons_self ..)),
      ih h.2 hreach fun x hx => hended x (List.mem_cons_of_mem _ hx)⟩

/-- The node of a reduction that costs nothing leads on. -/
theorem nextState_of_reduce (hlang : env.lang.Orderly) (hclosing : env.lang.Closing) {a b : Spot}
    {children extras : List Tree} {symbol : Symbol} {count production : Nat} {token : Symbol}
    (hchain : (Law.derived env.lang g text).Chain a (children ++ extras) count b)
    (hextras : ∀ e ∈ extras, e.isExtra = true)
    (hmem : .reduce symbol count production ∈ env.lang.actions b.state token)
    (hcost : ∀ c ∈ children, c.errorCost = 0) :
    env.lang.nextState a.state symbol ≠ ParseState.recovering := by
  have hb := state_ne_recovering hlang hmem (by simp) (by simp)
  obtain ⟨-, hpath, hcount⟩ := hchain.path hlang hextras hb hcost
  exact hclosing.reduce hpath (hcount ▸ hmem)

/-- A subtree that costs something may be pushed anywhere, and whoever has pushed it has paid. -/
theorem charged_step_pos {a : Spot} {u : Tree} {state : ParseState}
    (h : (Law.derived lang g text).step a (some u) (a.reach (some u) state))
    (hpos : 0 < u.errorCost) (hu : u.Ended) :
    (Law.charged lang g text keeps tops).step a (some u) (a.reach (some u) state)
      ∧ (a.reach (some u) state).Charged := by
  have hreach : 0 < (a.reach (some u) state).cost := Nat.lt_of_lt_of_le hpos (Nat.le_add_left ..)
  exact ⟨charged_step h (fun hzero => absurd hzero (Nat.ne_of_gt hreach)) hu, hreach⟩

/-- Whatever has been put in error keeps to the end of it what does not stand beside the grammar; so
what is left over when it is wrapped once more has been above it. -/
theorem exists_front (error : Option Tree) {trees children extras : List Tree}
    (herror : ∀ e, error = some e → e.isError = true ∧ e.Ended)
    (hsplit : (error.map Tree.children).getD [] ++ trees = children ++ extras)
    (hextras : ∀ e ∈ extras, e.isExtra = true) :
    ∃ front, children = (error.map Tree.children).getD [] ++ front ∧ trees = front ++ extras := by
  rcases List.append_eq_append_iff.mp hsplit with ⟨front, hchildren, htrees⟩ | ⟨back, hinner, hback⟩
  · exact ⟨front, hchildren, htrees⟩
  · -- nothing that stands beside the grammar ends the error
    have hnil : back = [] := by
      by_contra hne
      cases error with
      | none => exact hne (List.append_eq_nil_iff.mp hinner.symm).2
      | some e =>
        obtain ⟨c, hlast, hc⟩ := (herror e rfl).2 (herror e rfl).1
        have hend : c = back.getLast hne := by
          rw [show e.children = children ++ back from hinner, List.getLast?_append,
            List.getLast?_eq_some_getLast hne] at hlast
          simpa using hlast.symm
        have hmem : c ∈ extras := hback ▸ List.mem_append_left _ (hend ▸ List.getLast_mem hne)
        exact absurd (hc.symm.trans (hextras c hmem)) (by simp)
    subst hnil
    exact ⟨[], by simpa using hinner.symm, by simpa using hback.symm⟩

section Parsing

variable (hlang : env.lang.Orderly) (hlossless : env.lang.Lossless)
  (hsource : env.source = Source.ofText text) (hgen : env.lang.Generated g)
  (hclosing : env.lang.Closing)

include hlang hlossless hsource hgen hclosing

theorem charged_reduces {b : Spot} {token symbol : Symbol} {count production : Nat}
    (hmem : .reduce symbol count production ∈ env.lang.actions b.state token) :
    (Law.charged env.lang g text keeps tops).Reduces env b symbol count production := by
  intro a children extras ambiguous ha hchain hextras htrimmed
  obtain ⟨hstep, hrow⟩ := (closed_derived hlang hlossless hsource hgen).reduce ambiguous ha
    hchain.derivedChain hextras htrimmed hmem
  have hiff := errorCost_reduce_pos_iff hlang ambiguous hchain.derivedChain hmem
  obtain ⟨-, hhigh⟩ := hlang.reduce _ _ _ _ _ hmem
  -- a node that costs nothing is made of what costs nothing, and so it leads on
  have hstate : (a.reach (some (Parse.settle ambiguous a.state (Tree.ofChildren env.lang
        env.generation symbol production children))) (env.lang.nextState a.state symbol)).cost = 0 →
      env.lang.nextState a.state symbol ≠ ParseState.recovering := by
    intro hcost
    refine nextState_of_reduce hlang hclosing hchain.derivedChain hextras hmem fun c hc => ?_
    by_contra hpos
    have := hiff.mpr ⟨c, hc, Nat.pos_of_ne_zero hpos⟩
    simp only [Spot.reach] at hcost
    omega
  refine ⟨charged_step hstep hstate (Tree.ended_of_symbol ?_), charged_row extras hrow hstate
    fun e he => hchain.ended e (List.mem_append_right _ he)⟩
  rw [Tree.symbol_settle, Tree.symbol_ofChildren]
  exact Nat.ne_of_lt (Nat.lt_trans hhigh (by decide))

omit hlossless hsource hgen in
/-- A reading that has met no error meets none in a reduction. -/
theorem calm_of_landed {b c : Spot} {token symbol : Symbol} {count production : Nat}
    (hmem : .reduce symbol count production ∈ env.lang.actions b.state token)
    (hc : (Law.charged env.lang g text keeps tops).Landed env b symbol count production c)
    (hb : b.Calm) : c.Calm := by
  obtain ⟨a, children, extras, ambiguous, -, hchain, hextras, -, rfl⟩ := hc
  obtain ⟨ha, hcosts⟩ := hchain.cost_eq_zero hb.1
  have hchildren : ∀ c ∈ children, c.errorCost = 0 :=
    fun c hc => hcosts c (List.mem_append_left _ hc)
  have hnode : (Parse.settle ambiguous a.state (Tree.ofChildren env.lang env.generation symbol
      production children)).errorCost = 0 := by
    by_contra hpos
    obtain ⟨c, hc, hcpos⟩ := (errorCost_reduce_pos_iff hlang ambiguous hchain.derivedChain
      hmem).mp (Nat.pos_of_ne_zero hpos)
    exact absurd (hchildren c hc) (Nat.ne_of_gt hcpos)
  have hsum : (extras.map Tree.errorCost).sum = 0 := by
    refine List.sum_eq_zero_iff_forall_eq_nat.mpr fun x hx => ?_
    obtain ⟨e, he, rfl⟩ := List.mem_map.mp hx
    exact hcosts e (List.mem_append_right _ he)
  refine ⟨?_, ?_⟩
  · rw [Spot.cost_along, Spot.reach, hsum]
    simp only
    omega
  · refine fun hstate => absurd ((Spot.state_along rfl extras).symm.trans hstate) ?_
    exact nextState_of_reduce hlang hclosing hchain.derivedChain hextras hmem hchildren

omit hlossless hsource hgen hclosing in
/-- A reading that has paid for an error has paid for it after a reduction. -/
theorem charged_of_landed {b c : Spot} {token symbol : Symbol} {count production : Nat}
    (hmem : .reduce symbol count production ∈ env.lang.actions b.state token)
    (hc : (Law.charged env.lang g text keeps tops).Landed env b symbol count production c)
    (hb : b.Charged) : c.Charged := by
  obtain ⟨a, children, extras, ambiguous, -, hchain, -, -, rfl⟩ := hc
  have hiff := errorCost_reduce_pos_iff hlang ambiguous hchain.derivedChain hmem
  have hcost := hchain.cost
  rw [List.map_append, List.sum_append] at hcost
  rw [Spot.Charged] at hb ⊢
  rw [Spot.cost_along, Spot.reach]
  simp only
  by_contra hzero
  -- then nothing of what the node is made of costs anything, nor does anything else
  have hchildren : (children.map Tree.errorCost).sum = 0 := by
    refine List.sum_eq_zero_iff_forall_eq_nat.mpr fun x hx => ?_
    obtain ⟨d, hd, rfl⟩ := List.mem_map.mp hx
    by_contra hpos
    have := hiff.mpr ⟨d, hd, Nat.pos_of_ne_zero hpos⟩
    omega
  omega

/-! ## Readings that have paid -/

omit hclosing in
/-- What is above a state that is gone back to may be wrapped.  A reading that had paid for an error, or
that has passed over something, has paid for it then. -/
theorem charged_wrap {a m b : Spot} {error : Option Tree} {trees children extras : List Tree}
    {count count' : Nat} (ha : (Law.charged env.lang g text keeps Spot.Charged).stands a)
    (hm : (Law.charged env.lang g text keeps Spot.Charged).stands m)
    (hstate : m.state ≠ ParseState.recovering)
    (hchain : (Law.charged env.lang g text keeps Spot.Charged).Chain m trees count b)
    (herror : error = none ∧ a = m ∨ ∃ e, error = some e ∧ e.isError = true
      ∧ (Law.charged env.lang g text keeps Spot.Charged).Chain a [e] count' m)
    (hsplit : ((error.map Tree.children).getD [] ++ trees) = children ++ extras)
    (hextras : ∀ e ∈ extras, e.isExtra = true)
    (hlast : ∀ c, children.getLast? = some c → c.isExtra = false) :
    (if children = [] then (Law.charged env.lang g text keeps Spot.Charged).Row m.state a extras
      else (Law.charged env.lang g text keeps Spot.Charged).step a
          (some ((Tree.ofChildren env.lang env.generation Symbol.error 0 children).setExtra true))
          (a.reach (some ((Tree.ofChildren env.lang env.generation Symbol.error 0
            children).setExtra true)) m.state)
        ∧ (Law.charged env.lang g text keeps Spot.Charged).Row m.state
          (a.reach (some ((Tree.ofChildren env.lang env.generation Symbol.error 0
            children).setExtra true)) m.state) extras)
      ∧ (Spot.Charged b ∨ (∃ t ∈ trees, t.isExtra = false) →
        Spot.Charged (wrapped env m.state a children extras)) := by
  have hwrap := (closed_derived hlang hlossless hsource hgen).wrap ha hm hstate
    hchain.derivedChain (herror.imp_right fun h => h.imp fun e h =>
      ⟨h.1, h.2.1, h.2.2.derivedChain⟩) hsplit hextras
  obtain ⟨front, hchildren, rfl⟩ := exists_front error (fun e he => by
    rcases herror with ⟨hnone, -⟩ | ⟨e', he', hiserror, hbelow⟩
    · simp [hnone] at he
    · obtain rfl : e' = e := by simpa [he'] using he
      exact ⟨hiserror, hbelow.ended _ (by simp)⟩) hsplit hextras
  have hended : ∀ e ∈ extras, e.Ended := fun e he => hchain.ended e (by simp [he])
  by_cases hnil : children = []
  · rw [if_pos hnil] at hwrap ⊢
    rw [hnil] at hchildren
    obtain ⟨hinner, rfl⟩ := List.append_eq_nil_iff.mp hchildren.symm
    -- then there is no error below, since it would not be empty
    obtain ⟨rfl, rfl⟩ : error = none ∧ a = m := by
      refine herror.resolve_right ?_
      rintro ⟨e, rfl, hiserror, hbelow⟩
      obtain ⟨c, hlast, -⟩ := hbelow.ended e (by simp) hiserror
      rw [show e.children = [] from hinner] at hlast
      simp at hlast
    refine ⟨charged_row extras hwrap (fun _ => hstate) hended, fun hpays => ?_⟩
    have hb : b.Charged := by
      refine hpays.resolve_right ?_
      rintro ⟨t, ht, htextra⟩
      exact absurd (htextra.symm.trans (hextras t (by simpa using ht))) (by simp)
    have hcost := hchain.cost
    rw [List.nil_append] at hcost
    show 0 < (wrapped env a.state a children extras).cost
    rw [wrapped, if_pos hnil, Spot.cost_along, ← hcost]
    exact hb
  · rw [if_neg hnil] at hwrap ⊢
    have hpos : 0 < ((Tree.ofChildren env.lang env.generation Symbol.error 0
        children).setExtra true).errorCost := by
      rw [Tree.errorCost_setExtra]
      exact Tree.errorCost_ofChildren_pos _ (.inl rfl)
    have hended' : ((Tree.ofChildren env.lang env.generation Symbol.error 0
        children).setExtra true).Ended := fun _ => by
      rw [Tree.children_setExtra, Tree.children_ofChildren]
      exact ⟨_, List.getLast?_eq_some_getLast hnil, hlast _ (List.getLast?_eq_some_getLast hnil)⟩
    obtain ⟨hstep, hreach⟩ := charged_step_pos hwrap.1 hpos hended'
    refine ⟨⟨hstep, charged_row extras hwrap.2 (fun hzero => absurd hzero (Nat.ne_of_gt hreach))
      hended⟩, fun _ => ?_⟩
    show 0 < (wrapped env m.state a children extras).cost
    rw [wrapped, if_neg hnil, Spot.cost_along]
    exact Nat.lt_of_lt_of_le hreach (Nat.le_add_right ..)

theorem recovers_charged : (Law.charged env.lang g text keeps Spot.Charged).Recovers env where
  reduces _ hmem := charged_reduces hlang hlossless hsource hgen hclosing hmem
  lands hmem hc hb := charged_of_landed hlang hmem hc hb
  missing ha hpos hlt hleads hmoves hreduces :=
    charged_step_pos
      ((closed_derived hlang hlossless hsource hgen).missing ha hpos hlt hleads hmoves hreduces)
      (by simp [Tree.missingToken, Tree.errorCost, prices])
      (Tree.ended_of_symbol (hlang.token_ne hlt).1)
  wrap ha hm hstate hchain herror hsplit hextras hlast :=
    charged_wrap hlang hlossless hsource hgen ha hm hstate hchain herror hsplit hextras hlast
  skip hb hpart := charged_step_pos
    ((closed_derived hlang hlossless hsource hgen).skip hb (derived_of_part hpart))
    (Tree.errorCost_ofChildren_pos _ (.inr rfl))
    (Tree.ended_of_symbol (by rw [skippedOver, Tree.symbol_ofChildren]; decide))
  skipOver ha hb hchain hpart := charged_step_pos
    ((closed_derived hlang hlossless hsource hgen).skipOver ha hb hchain.derivedChain
      (derived_of_part hpart))
    (Tree.errorCost_ofChildren_pos _ (.inr rfl))
    (Tree.ended_of_symbol (by rw [Tree.symbol_ofChildren]; decide))
  giveUp _ _ hpart hend hroot :=
    .inr (errorCost_giveUp_pos (spelled_of_part (derived_of_part hpart)) hend hroot)

theorem enters_charged : (Law.charged env.lang g text keeps Spot.Charged).Enters env where
  toRecovers := recovers_charged hlang hlossless hsource hgen hclosing
  mark ha htops := ⟨⟨(closed_derived hlang hlossless hsource hgen).mark ha,
    fun _ hzero => absurd hzero (Nat.ne_of_gt htops), by simp⟩, htops⟩

/-! ## Readings that are advanced -/

omit hlossless hsource hgen hclosing in
/-- A leaf that is shifted ends nothing in error, and costs nothing. -/
theorem shifted_free {a : Spot} {t : Tree} {x : Action} (extra : Bool) (hleaf : t.isLeaf = true)
    (hmem : x ∈ env.lang.actions a.state t.firstSymbol) (hcost : t.errorCost = 0) :
    (t.shifted extra).Ended ∧ (t.shifted extra).errorCost = 0 := by
  refine ⟨Tree.ended_of_symbol ?_, ?_⟩
  · rw [Tree.symbol_shifted]
    exact (symbol_of_leaf hlang hleaf hmem).2.1
  · rw [Tree.shifted]
    split
    · rwa [Tree.errorCost_setExtra]
    · exact hcost

/-- Readings are advanced as it should be with what is charged, if they stand where errors have been
met or have not, and still do so after what costs nothing and after reductions. -/
theorem charged_advances
    (hleads : ∀ {a}, tops a → a.cost = 0 → a.state ≠ ParseState.recovering)
    (hreach : ∀ {a u state}, tops a → u.errorCost = 0 →
      (a.cost = 0 → state ≠ ParseState.recovering) → tops (a.reach (some u) state))
    (hlands : ∀ {b c token symbol count production},
      .reduce symbol count production ∈ env.lang.actions b.state token →
      (Law.charged env.lang g text keeps tops).Landed env b symbol count production c →
      tops b → tops c)
    (hwhole : ∀ {b trees count root}, (Law.derived env.lang g text).Chain Spot.origin trees count b →
      tops b → (root.errorCost = 0 → ∀ u ∈ trees, u.errorCost = 0) →
      (Law.derived env.lang g text).whole root → keeps root ∨ 0 < root.errorCost)
    (hrecovers : ∀ {a}, tops a → a.state = ParseState.recovering →
      (Law.charged env.lang g text keeps tops).Recovers env) :
    (Law.charged env.lang g text keeps tops).Advances env := by
  have hd := closed_derived hlang hlossless hsource hgen
  exact {
    origin := hd.origin
    read := fun {a} ha _ => by
      obtain ⟨hmissing, -⟩ := Lexer.next_spec hlang env.source a.state a.position
      exact ⟨⟨hd.read ha _, by simp [Tree.errorCost, hmissing]⟩, trivial⟩
    cached := fun _ _ _ _ => trivial
    word := fun {a t} _ hwaits _ hkeyword _ => by
      refine ⟨⟨hd.word hwaits.1 hkeyword, ?_⟩, trivial⟩
      cases t with
      | token k => exact hwaits.2
      | branch b cs => simp [Tree.isKeyword] at hkeyword
    reuse := fun h => absurd h id
    shift := fun {a t next} ha htops hwaits _ hleaf hmem => by
      obtain ⟨hended, hcost⟩ := shifted_free hlang false hleaf hmem hwaits.2
      have hnext := hclosing.shift hmem
      exact ⟨charged_step (hd.shift ha hwaits.1 hleaf hmem) (fun _ => hnext) hended,
        hreach htops hcost fun _ => hnext⟩
    shiftExtra := fun {a t} ha htops hwaits hleaf hmem => by
      obtain ⟨hended, hcost⟩ := shifted_free hlang true hleaf hmem hwaits.2
      refine ⟨charged_step (hd.shiftExtra ha hwaits.1 hleaf hmem) (fun hzero => ?_) hended,
        hreach htops hcost (hleads htops)⟩
      exact hleads htops (Nat.eq_zero_of_add_eq_zero_right hzero)
    shiftPart := fun {a t} extra tooLarge _ _ hwaits hleaf _ => by
      obtain ⟨k, rfl, -⟩ := hwaits.1.2
      exact absurd hleaf (by simp [Tree.isLeaf, Tree.children])
    reduces := fun _ _ _ _ hmem => charged_reduces hlang hlossless hsource hgen hclosing hmem
    lands := fun _ _ _ hmem hc hb => ⟨hlands hmem hc hb, trivial⟩
    accept := fun {b t trees count root} hchain hstands htops hwaits hmem hroot => by
      have hroot' := hd.accept hchain.derivedChain hstands hwaits.1 hmem hroot
      obtain ⟨k, rfl, -⟩ := hwaits.1.2
      have hextra : (Tree.token k).isExtra = true :=
        hwaits.1.1.1.1.of_token.endOfText (hlang.accept _ _ hmem)
      exact hwhole hchain.derivedChain htops (fun hcost u hu => costless_of_root hlang
        hchain.derivedChain hextra hmem hroot hroot'.1.1.1.1 hcost u (by simp [hu])) hroot'
    divide := fun h => absurd h id
    divides := fun h => absurd h id
    recovers := fun _ htops hmem => hrecovers htops (hclosing.recover hmem) }

/-- **Readings that have paid for an error keep to what is charged**, and what they end with costs
something. -/
theorem advances_charged : (Law.charged env.lang g text keeps Spot.Charged).Advances env :=
  charged_advances hlang hlossless hsource hgen hclosing
    (fun ha hzero => absurd hzero (Nat.ne_of_gt ha))
    (fun ha _ _ => Nat.lt_of_lt_of_le ha (Nat.le_add_right ..))
    (charged_of_landed hlang)
    (fun {b trees count root} hchain hb hcosts _ => by
      refine .inr (Nat.pos_of_ne_zero fun hzero => ?_)
      have hsum := List.sum_eq_zero_iff_forall_eq_nat.mpr
        (List.forall_mem_map.mpr (hcosts hzero))
      have hcost := hchain.cost
      rw [hsum] at hcost
      exact absurd hcost (Nat.ne_of_gt hb))
    (fun _ _ => recovers_charged hlang hlossless hsource hgen hclosing)

/-- **Readings that have met no error keep to what is charged.** -/
theorem advances_calm :
    (Law.charged env.lang g text (Law.derived env.lang g text).whole Spot.Calm).Advances env :=
  charged_advances hlang hlossless hsource hgen hclosing
    (fun ha _ => ha.2)
    (fun {a u state} ha hu hstate => ⟨by
      rw [Spot.reach, ha.1, hu], hstate ha.1⟩)
    (calm_of_landed hlang hclosing)
    (fun _ _ _ hwhole => .inl hwhole)
    (fun ha hstate => absurd hstate ha.2)

/-- Reductions of a reading that has met no error meet none and lead no further. -/
theorem reducing_calm (offset : Nat) : (Law.charged env.lang g text keeps fun a =>
    a.Calm ∧ a.position.bytes = offset).Reducing env where
  reduces _ hmem := charged_reduces hlang hlossless hsource hgen hclosing hmem
  lands hmem hc hb := ⟨calm_of_landed hlang hclosing hmem hc hb.1, hc.bytes.trans hb.2⟩

end Parsing

end Law

end SyntaxKit
