import SyntaxKit.Proofs.Parse.Calm
import SyntaxKit.Proofs.Parse.Rivals
import SyntaxKit.Proofs.Tree.Operations

/-!
# Parsing ranks operations

When an operation is reduced, the token on which this is done is one behind which it may stand as a left
operand; and what follows behind an operation, comments apart, is what it has been reduced on, or a rival
of that.  So a stack of a reading that has met no error keeps of each operation from which state it has
been formed and what it has been reduced on (`Parse.Bound`), until another operation is formed with it.

`Law.ranked` is what a reading without errors keeps to, and by it all operations of its trees are ranked
(`Law.advances_ranked`).
-/

namespace SyntaxKit

open Lexer

variable {lang : Language} {g : Grammar.Listed} {text : List Char} {d : Accord}
  {rivals : List (Symbol × Symbol)} {o : Operators} {src : Source}

namespace Parse

/-- In a state a node is reduced on what has been heard at a position. -/
def ReducedAt (lang : Language) (src : Source) (rivals : List (Symbol × Symbol)) (b : ParseState)
    (node : Symbol) (pos : Extent) : Prop :=
  ∃ k production, Heard lang src pos k ∧ .reduce node 3 production ∈ lang.actions b k.symbol
    ∧ Unrivalled lang src rivals b pos k.symbol

/-- An operation at a level that begins in a state and ends at a position has been reduced on what
follows. -/
def Bound (lang : Language) (src : Source) (rivals : List (Symbol × Symbol)) (o : Operators)
    (a : ParseState) (q : Nat) (pos : Extent) : Prop :=
  ∃ node op b, (node, op, q) ∈ o.levels ∧ lang.Path a [o.operand, op, o.operand] b
    ∧ Followed lang src (ReducedAt lang src rivals b node) pos

end Parse

namespace Parse

/-- A node leads to one state. -/
theorem nextState_of_leads {a b : ParseState} {s : Symbol} (h : lang.Leads a s b)
    (hs : lang.tokenCount ≤ s) : lang.nextState a s = b := by
  rcases h with hshift | ⟨-, -, hnext⟩
  · simp [Language.actions_eq_nil hs] at hshift
  · exact hnext

section Nesting

variable (hranks : lang.Ranks d rivals o)

include hranks

/-- **The right operand of an operation binds as tightly as it has to.** -/
theorem right_of_bound {a a' b : ParseState} {q p : Nat} {pos : Extent} {node op token : Symbol}
    {production : Nat} (hbound : Bound lang src rivals o a q pos) (hb : lang.Leads a o.operand b)
    (hlevel : (node, op, p) ∈ o.levels) (hpath : lang.Path a' [o.operand, op, o.operand] b)
    (hmem : .reduce node 3 production ∈ lang.actions b token) : o.Right p q := by
  obtain ⟨node', op', e, hlevel', ⟨m, hm, c, hc, -⟩, -⟩ := hbound
  obtain rfl : m = b :=
    (nextState_of_leads hm hranks.operand).symm.trans (nextState_of_leads hb hranks.operand)
  exact hranks.right hlevel hpath hmem hlevel' hc

variable (hd : lang.Accordant d) (hclear : d.Clear lang) (hlang : lang.Orderly)

include hd hclear hlang

/-- **The left operand of an operation binds as tightly as it has to**: what it has been reduced on is
the operator of the operation, or else a rival that would have been preferred. -/
theorem left_of_bound {a m : ParseState} {q p : Nat} {pos stop : Extent} {node : Symbol} {k : Token}
    (hbound : Bound lang src rivals o a q pos) (hm : lang.Leads a o.operand m)
    (hlevel : (node, k.symbol, p) ∈ o.levels) (hk : Heard lang src stop k)
    (hunrivalled : Unrivalled lang src rivals m stop k.symbol)
    (hstop : Followed lang src (· = stop) pos) : o.Left p q := by
  obtain ⟨node', op', e, hlevel', hpath, hfollowed⟩ := hbound
  obtain ⟨-, -, hbound, hany, hword, hextra, hstrong⟩ := hranks.operator _ hlevel
  have hforms : o.Forms node' := ⟨_, hlevel', rfl⟩
  have hplain : Plain lang d k.symbol := ⟨(hlang.token_ne hbound).1, hany, hextra⟩
  have hreduced : ∀ {k' : Token} {production}, .reduce node' 3 production ∈ lang.actions e k'.symbol →
      Plain lang d k'.symbol := fun hmem =>
    ⟨(hlang.token_ne (Language.mem_actions hmem).1).1, (hranks.clear hforms hmem).1,
      (hranks.clear hforms hmem).2⟩
  obtain ⟨k', production, hk', hmem, hunrivalled'⟩ := hfollowed.reaches hd hclear
    (fun _ ⟨k', _, hk', hmem, _⟩ => ⟨k', hk', hreduced hmem⟩) hk hplain hstop
  have hplain' := hreduced hmem
  rcases hk'.same_or_yields hd hclear hk hplain'.error hplain'.anywhere hplain.error hplain.anywhere
    with hsame | hyields | hyields
  · -- it has been reduced on the operator
    rw [hsame] at hmem
    exact hranks.left hlevel' hpath hlevel hmem
  · rcases hyields with hinstead | ⟨hisword, hkeyword⟩
    · exact absurd rfl (hstrong (k.symbol, k'.symbol) hinstead)
    · -- it has been reduced on a word where the operator could have been used
      rw [hisword] at hmem hunrivalled'
      obtain ⟨hrival, hacts⟩ := hranks.word hforms hlevel hmem hkeyword
      exact absurd (hacts.symm.trans (hunrivalled' k hk hrival)) (by simp)
  · rcases hyields with hinstead | ⟨hisword, -⟩
    · -- it has been reduced on what could be used behind it, instead of the operator
      obtain ⟨m', hm', hrest⟩ := hpath
      obtain rfl : m' = m := (nextState_of_leads hm' hranks.operand).symm.trans
        (nextState_of_leads hm hranks.operand)
      obtain ⟨hrival, hacts⟩ := hranks.strong hlevel' hm' hrest hlevel hmem hinstead
      exact absurd (hacts.symm.trans (hunrivalled k' hk' hrival)) (by simp)
    · exact absurd hisword hword

end Nesting

end Parse

/-- What is known of a subtree on the stack of a reading without errors: its operations are ranked, it is
bound by what follows if it is an operation, and it has been heard if it is a token. -/
structure Tree.Pushed (lang : Language) (src : Source) (rivals : List (Symbol × Symbol))
    (o : Operators) (a : Spot) (t : Tree) (stop : Extent) : Prop where
  ranked : t.Ranked o
  heard : ∀ k, t = .token k → Heard lang src a.position k
    ∧ (k.extra = false → Unrivalled lang src rivals a.state a.position k.symbol)
  extra : t.isExtra = true → ∃ k, t = .token k ∧ Parse.isExtraToken lang k.symbol = true
  bound : ∀ q, t.Operates o q ∨ t.Wraps o q → Parse.Bound lang src rivals o a.state q stop

/-- What a reading without errors keeps to. -/
def Law.ranked (lang : Language) (g : Grammar.Listed) (text : List Char)
    (rivals : List (Symbol × Symbol)) (o : Operators) : Law where
  stands := (Law.derived lang g text).stands
  step a t b := (Law.charged lang g text (Law.derived lang g text).whole Spot.Calm).step a t b
    ∧ a.Calm ∧ b.Calm
    ∧ ∃ u, t = some u ∧ u.Pushed lang (Source.ofText text) rivals o a b.position
  waits p t := (Law.charged lang g text (Law.derived lang g text).whole Spot.Calm).waits p t
    ∧ ∃ k, t = .token k ∧ Heard lang (Source.ofText text) p k
  faces a t := ∀ k, t = .token k →
    Unrivalled lang (Source.ofText text) rivals a.state a.position k.symbol
  tops := Spot.Calm
  divides _ := False
  spare _ _ := False
  whole t := (Law.derived lang g text).whole t ∧ t.Ranked o
  stands_of_step h := (Law.derived lang g text).stands_of_step h.1.1
  step_congr {a t b b'} h hstands hstate hbytes hcost := by
    obtain ⟨hstep, ha, hb, hpushed⟩ := h
    obtain ⟨front, hfront⟩ := (Law.derived lang g text).stands_of_step hstep.1
    obtain ⟨front', hfront'⟩ := hstands
    have heq : b' = b := by
      obtain ⟨-, hpositions⟩ := hfront.eq_of_bytes hfront' hbytes
      cases b
      cases b'
      simp_all
    rw [heq]
    exact ⟨hstep, ha, hb, hpushed⟩
  bytes_of_step h := (Law.derived lang g text).bytes_of_step h.1.1
  cost_of_step h := (Law.derived lang g text).cost_of_step h.1.1
  waits_congr {p t a} h ha hbytes := by
    obtain ⟨hwaits, k, ht, hheard⟩ := h
    obtain ⟨⟨⟨-, -, front, -, -, -, -, hfront, -⟩, -⟩, -⟩ := id hwaits
    obtain ⟨front', hfront'⟩ := id ha
    obtain ⟨-, hposition⟩ := hfront.eq_of_bytes hfront' hbytes
    exact ⟨(Law.charged lang g text (Law.derived lang g text).whole Spot.Calm).waits_congr hwaits ha
      hbytes, k, ht, hposition ▸ hheard⟩
  spare_children := @Law.none_spare

namespace Law

/-! ## Chains -/

theorem Chain.chargedChain {a b : Spot} {ts : List Tree} {n : Nat}
    (h : (Law.ranked lang g text rivals o).Chain a ts n b) :
    (Law.charged lang g text (Law.derived lang g text).whole Spot.Calm).Chain a ts n b :=
  h.mono fun {_ _ _} (hstep : (Law.ranked lang g text rivals o).step _ _ _) => hstep.1

/-- Where what is pushed leads to. -/
theorem position_of_step {a m : Spot} {t : Tree}
    (h : (Law.ranked lang g text rivals o).step a (some t) m) :
    m.position = a.position + t.totalSize := h.1.1.1.1.2.2.1

/-- What stands beside the grammar on a stack has been heard. -/
theorem Chain.followed {a b : Spot} {ts : List Tree} {n : Nat}
    (h : (Law.ranked lang g text rivals o).Chain a ts n b) (hextra : ∀ t ∈ ts, t.isExtra = true) :
    Followed lang (Source.ofText text) (· = b.position) a.position := by
  induction h with
  | nil a => exact .here rfl
  | mark first rest ih =>
    obtain ⟨-, -, -, u, hu, -⟩ := first
    simp at hu
  | @tree a m b t ts n first rest ih =>
    have hposition := position_of_step first
    obtain ⟨-, -, -, u, hu, hpushed⟩ := first
    obtain rfl := Option.some.inj hu
    obtain ⟨k, rfl, hk⟩ := hpushed.extra (hextra t (List.mem_cons_self ..))
    refine .behind (hpushed.heard k rfl).1 hk ?_
    rw [← hposition]
    exact ih fun t ht => hextra t (List.mem_cons_of_mem _ ht)

/-- What is pushed without errors is consumed whole. -/
theorem costless_of_step {a m : Spot} {t : Tree}
    (h : (Law.ranked lang g text rivals o).step a (some t) m) : t.errorCost = 0 := by
  have hcost := (Law.ranked lang g text rivals o).cost_of_step h
  obtain ⟨-, -, ⟨hm, -⟩, -⟩ := h
  simp at hcost
  omega

/-- What stands beside the grammar keeps the state, and anything else leads on. -/
theorem leads_of_step {a m : Spot} {t : Tree}
    (h : (Law.ranked lang g text rivals o).step a (some t) m) :
    (t.isExtra = true → m.state = a.state)
      ∧ (t.isExtra = false → lang.Leads a.state t.symbol m.state) := by
  have hcost := costless_of_step h
  obtain ⟨⟨⟨⟨⟨hpaid, -⟩, -⟩, hnew⟩, -⟩, -, ⟨-, hm⟩, -⟩ := h
  exact ⟨fun hextra => ((hpaid.2.2.2.2.1 t rfl).leads hm).extra hextra,
    fun hextra => (hnew t rfl hm hextra hcost).2⟩

/-- What is pushed keeps to what is known of it. -/
theorem pushed_of_step {a m : Spot} {t : Tree}
    (h : (Law.ranked lang g text rivals o).step a (some t) m) :
    t.Pushed lang (Source.ofText text) rivals o a m.position := by
  obtain ⟨-, -, -, u, hu, hpushed⟩ := h
  exact Option.some.inj hu ▸ hpushed

/-- The first subtree on a stack that does not stand beside the grammar. -/
theorem Chain.next {a b : Spot} {ts rest : List Tree} {c : Tree} {n : Nat}
    (h : (Law.ranked lang g text rivals o).Chain a ts n b)
    (hfilter : (ts.filter fun t => !t.isExtra) = c :: rest) :
    ∃ m m' ts' k, (Law.ranked lang g text rivals o).step m (some c) m' ∧ m.state = a.state
      ∧ Followed lang (Source.ofText text) (· = m.position) a.position
      ∧ (Law.ranked lang g text rivals o).Chain m' ts' k b
      ∧ (ts'.filter fun t => !t.isExtra) = rest := by
  induction h with
  | nil a => simp at hfilter
  | mark first _ _ =>
    obtain ⟨-, -, -, u, hu, -⟩ := first
    simp at hu
  | @tree a m b t ts n first others ih =>
    cases hextra : t.isExtra with
    | true =>
      rw [List.filter_cons_of_neg (by simp [hextra])] at hfilter
      obtain ⟨m₁, m', ts', k, hstep, hstate, hfollowed, hrest, hfilter'⟩ := ih hfilter
      refine ⟨m₁, m', ts', k, hstep, hstate.trans ((leads_of_step first).1 hextra), ?_, hrest,
        hfilter'⟩
      obtain ⟨j, rfl, hj⟩ := (pushed_of_step first).extra hextra
      refine .behind ((pushed_of_step first).heard j rfl).1 hj ?_
      rw [← position_of_step first]
      exact hfollowed
    | false =>
      rw [List.filter_cons_of_pos (by simp [hextra])] at hfilter
      obtain ⟨rfl, rfl⟩ := List.cons.inj hfilter
      exact ⟨a, m, ts, n, first, rfl, .here rfl, others, rfl⟩

/-- Behind the last subtree that does not stand beside the grammar the state is kept. -/
theorem Chain.state_of_extras {a b : Spot} {ts : List Tree} {n : Nat}
    (h : (Law.ranked lang g text rivals o).Chain a ts n b)
    (hfilter : (ts.filter fun t => !t.isExtra) = []) : b.state = a.state := by
  induction h with
  | nil a => rfl
  | mark first _ _ =>
    obtain ⟨-, -, -, u, hu, -⟩ := first
    simp at hu
  | @tree a m b t ts n first rest ih =>
    have hall := List.filter_eq_nil_iff.mp hfilter
    have hextra : t.isExtra = true := by simpa using hall t (List.mem_cons_self ..)
    rw [List.filter_cons_of_neg (by simp [hextra])] at hfilter
    exact (ih hfilter).trans ((leads_of_step first).1 hextra)

/-- A subtree on a stack is a token if its symbol is one. -/
theorem exists_token_of_step {a m : Spot} {t : Tree}
    (h : (Law.ranked lang g text rivals o).step a (some t) m) (hextra : t.isExtra = false)
    (hsymbol : t.symbol < lang.tokenCount) : ∃ k, t = .token k := by
  have hcost := costless_of_step h
  obtain ⟨⟨⟨-, hnew⟩, -⟩, -, ⟨-, hm⟩, -⟩ := h
  have hderived := (hnew t rfl hm hextra hcost).1
  cases t with
  | token k => exact ⟨k, rfl⟩
  | branch b cs => exact absurd (Tree.Every.of_branch hderived).bound.1 (Nat.not_le.mpr hsymbol)

/-- What is on a stack is pushed somewhere. -/
theorem Chain.pushed {a b : Spot} {ts : List Tree} {n : Nat}
    (h : (Law.ranked lang g text rivals o).Chain a ts n b) {t : Tree} (ht : t ∈ ts) :
    ∃ a stop, t.Pushed lang (Source.ofText text) rivals o a stop := by
  obtain ⟨a, b, hstep⟩ := h.step_of_mem ht
  exact ⟨a, _, pushed_of_step hstep⟩

theorem Chain.position {a b : Spot} {ts : List Tree} {n : Nat}
    (h : (Law.ranked lang g text rivals o).Chain a ts n b) :
    b.position = a.position + Tree.totalSizes ts := by
  induction h with
  | nil a => simp
  | mark first _ _ =>
    obtain ⟨-, -, -, u, hu, -⟩ := first
    simp at hu
  | tree first rest ih =>
    rw [ih, position_of_step first, Tree.totalSizes_cons, Extent.add_assoc]

/-- A token that has been heard may be pushed anywhere. -/
theorem pushed_token {a : Spot} {k : Token} {stop : Extent} (hforms : ¬o.Forms k.symbol)
    (hk : Heard lang (Source.ofText text) a.position k)
    (hunrivalled : k.extra = false →
      Unrivalled lang (Source.ofText text) rivals a.state a.position k.symbol)
    (hextra : k.extra = true → Parse.isExtraToken lang k.symbol = true) :
    (Tree.token k).Pushed lang (Source.ofText text) rivals o a stop where
  ranked := .token hforms
  heard k' hk' := by
    obtain rfl := Tree.token.inj hk'
    exact ⟨hk, hunrivalled⟩
  extra htrue := ⟨k, rfl, hextra htrue⟩
  bound q hq := absurd hq (not_or.mpr ⟨Tree.not_operates_token k q, Tree.not_wraps_token k q⟩)

/-- What stood beside the grammar may be pushed again at the same place. -/
theorem Chain.row {m b : Spot} {extras : List Tree} {n : Nat} {state : ParseState}
    (hstate : state ≠ ParseState.recovering)
    (h : (Law.ranked lang g text rivals o).Chain m extras n b)
    (hextras : ∀ e ∈ extras, e.isExtra = true) :
    ∀ {a : Spot}, a.Calm → a.position = m.position →
      (Law.charged lang g text (Law.derived lang g text).whole Spot.Calm).Row state a extras →
      (Law.ranked lang g text rivals o).Row state a extras := by
  induction h with
  | nil m => exact fun _ _ _ => trivial
  | mark first _ _ =>
    obtain ⟨-, -, -, u, hu, -⟩ := first
    simp at hu
  | @tree m m' b t ts n first rest ih =>
    intro a ha hposition hrow
    have hcost := costless_of_step first
    have hextra := hextras t (List.mem_cons_self ..)
    have hcalm : (a.reach (some t) state).Calm := ⟨by rw [Spot.reach, ha.1, hcost], hstate⟩
    obtain ⟨k, rfl, hk⟩ := (pushed_of_step first).extra hextra
    have hheard := ((pushed_of_step first).heard k rfl).1
    rw [← hposition] at hheard
    refine ⟨⟨hrow.1, ha, hcalm, _, rfl, pushed_token
      (Tree.Every.of_token (pushed_of_step first).ranked) hheard (fun hfalse =>
      absurd (hextra.symm.trans hfalse) (by simp)) fun _ => hk⟩, ?_⟩
    refine ih (fun e he => hextras e (List.mem_cons_of_mem _ he)) hcalm ?_ hrow.2
    rw [position_of_step first, Spot.reach, hposition]

/-- One subtree between two places. -/
theorem Chain.step_of_one {a b : Spot} {t : Tree} {n : Nat}
    (h : (Law.ranked lang g text rivals o).Chain a [t] n b) :
    (Law.ranked lang g text rivals o).step a (some t) b := by
  have hnone : ∀ {a m : Spot}, ¬(Law.ranked lang g text rivals o).step a none m := by
    rintro a m ⟨-, -, -, u, hu, -⟩
    simp at hu
  cases h with
  | mark first _ => exact absurd first hnone
  | tree first rest =>
    cases rest with
    | nil => exact first
    | mark mark _ => exact absurd mark hnone

/-! ## Reductions -/

section Reductions

variable (hlang : lang.Orderly) (hranks : lang.Ranks d rivals o)

include hranks

/-- What forms operations does not stand beside the grammar. -/
theorem Chain.not_extra {a b : Spot} {ts : List Tree} {n : Nat}
    (h : (Law.ranked lang g text rivals o).Chain a ts n b) {t : Tree} (ht : t ∈ ts)
    (hforms : o.Forms t.symbol) : t.isExtra = false := by
  by_contra hextra
  obtain ⟨a, stop, hpushed⟩ := h.pushed ht
  obtain ⟨k, rfl, hk⟩ := hpushed.extra (by simpa using hextra)
  exact hranks.not_forms (Parse.lt_of_isExtraToken hk) hforms

include hlang

omit hranks in
/-- The children of a reduction are a path of the automaton. -/
theorem Chain.path_of_reduce {a b : Spot} {children extras : List Tree} {count production : Nat}
    {symbol token : Symbol}
    (h : (Law.ranked lang g text rivals o).Chain a (children ++ extras) count b)
    (hextras : ∀ e ∈ extras, e.isExtra = true) (hb : b.Calm)
    (hmem : .reduce symbol count production ∈ lang.actions b.state token) :
    lang.Path a.state (Tree.grammarSymbols children) b.state
      ∧ .reduce symbol (Tree.grammarSymbols children).length production
        ∈ lang.actions b.state token := by
  have hcosts := (h.cost_eq_zero hb.1).2
  obtain ⟨-, hpath, hcount⟩ := h.chargedChain.derivedChain.path hlang hextras hb.2
    fun c hc => hcosts c (List.mem_append_left _ hc)
  exact ⟨hpath, hcount ▸ hmem⟩

omit hlang hranks in
/-- An operation that is reduced is bound by what it is reduced on. -/
theorem Chain.bound_of_operates {a mid b : Spot} {extras : List Tree} {n' production : Nat}
    {symbol op : Symbol} {q : Nat} {k : Token}
    (h : (Law.ranked lang g text rivals o).Chain mid extras n' b)
    (hextras : ∀ e ∈ extras, e.isExtra = true) (hlevel : (symbol, op, q) ∈ o.levels)
    (hpath : lang.Path a.state [o.operand, op, o.operand] b.state)
    (hmem : .reduce symbol 3 production ∈ lang.actions b.state k.symbol)
    (hk : Heard lang (Source.ofText text) b.position k)
    (hunrivalled : Unrivalled lang (Source.ofText text) rivals b.state b.position k.symbol) :
    Parse.Bound lang (Source.ofText text) rivals o a.state q mid.position :=
  ⟨symbol, op, b.state, hlevel, hpath, (h.followed hextras).mono fun p hp => by
    subst hp
    exact ⟨k, production, hk, hmem, hunrivalled⟩⟩

/-- **The node of a reduction is bound by what follows** if it is an operation. -/
theorem Chain.bound_of_reduce {a mid b : Spot} {children extras : List Tree}
    {n n' production : Nat} {symbol : Symbol} {k : Token}
    (hchildren : (Law.ranked lang g text rivals o).Chain a children n mid)
    (h : (Law.ranked lang g text rivals o).Chain mid extras n' b)
    (hextras : ∀ e ∈ extras, e.isExtra = true)
    (hlast : ∀ c, children.getLast? = some c → c.isExtra = false) (hb : b.Calm)
    (hmem : .reduce symbol (n + n') production ∈ lang.actions b.state k.symbol)
    (hk : Heard lang (Source.ofText text) b.position k)
    (hunrivalled : Unrivalled lang (Source.ofText text) rivals b.state b.position k.symbol) {u : Tree}
    (hsymbol : u.symbol = symbol) (hu : u.children = children) {q : Nat}
    (hq : u.Operates o q ∨ u.Wraps o q) :
    Parse.Bound lang (Source.ofText text) rivals o a.state q mid.position := by
  obtain ⟨hpath, hreduce⟩ :=
    (hchildren.append h).path_of_reduce hlang hextras hb hmem
  rcases hq with ⟨c, hc, hextra, hlevel⟩ | ⟨hoperand, c, hc, hoperates⟩
  · rw [hu] at hc
    rw [hsymbol] at hlevel
    obtain ⟨op, p, hsymbols, -⟩ := hranks.operation hpath hreduce ⟨_, hlevel, rfl⟩
    have hin : c.symbol ∈ Tree.grammarSymbols children :=
      List.mem_map_of_mem (List.mem_filter.mpr ⟨hc, by simp [hextra]⟩)
    have hne : c.symbol ≠ o.operand := by
      have hlow := (hranks.operator _ hlevel).2.2.1
      have hhigh := hranks.operand
      exact Nat.ne_of_lt (Nat.lt_of_lt_of_le hlow hhigh)
    rw [hsymbols] at hin hpath hreduce
    obtain rfl : c.symbol = op := by simpa [hne] using hin
    exact h.bound_of_operates hextras hlevel hpath hreduce hk hunrivalled
  · rw [hu] at hc
    rw [hsymbol] at hoperand
    have hcextra := hchildren.not_extra hranks hc hoperates.forms
    -- the operand is nothing but the operation
    have hone : (children.filter fun t => !t.isExtra) = [c] := by
      obtain ⟨c', hsymbols⟩ := List.length_eq_one_iff.mp ((hranks.wraps hpath hreduce).1 hoperand)
      obtain ⟨c'', hone, -⟩ := List.map_eq_singleton_iff.mp hsymbols
      have hin : c ∈ children.filter fun t => !t.isExtra :=
        List.mem_filter.mpr ⟨hc, by simp [hcextra]⟩
      rw [hone, List.mem_singleton] at hin
      rw [hone, hin]
    obtain ⟨front, back, rfl, hfront, -, hback⟩ := List.filter_eq_cons_iff.mp hone
    obtain rfl : back = [] := by
      by_contra hne
      have hend := hlast (back.getLast hne) (by
        rw [List.getLast?_append, List.getLast?_cons, List.getLast?_eq_some_getLast hne]
        rfl)
      have hbeside := List.filter_eq_nil_iff.mp hback _ (List.getLast_mem hne)
      simp [hend] at hbeside
    obtain ⟨m, _, _, hbefore, hstep, -⟩ := hchildren.split
    have hstate := hbefore.state_of_extras (List.filter_eq_nil_iff.mpr hfront)
    rw [← hstate]
    exact (pushed_of_step hstep.step_of_one).bound q (.inl hoperates)

variable (hd : lang.Accordant d) (hclear : d.Clear lang)

include hd hclear

/-- **The children of a reduction are ranked.** -/
theorem Chain.ranked_of_reduce {a b : Spot} {children extras : List Tree} {count production : Nat}
    {symbol token : Symbol}
    (h : (Law.ranked lang g text rivals o).Chain a (children ++ extras) count b)
    (hextras : ∀ e ∈ extras, e.isExtra = true) (hb : b.Calm)
    (hmem : .reduce symbol count production ∈ lang.actions b.state token) {root : Branch}
    (hsymbol : root.symbol = symbol) (hextra : root.extra = false) : root.Ranked o children := by
  obtain ⟨hpath, hreduce⟩ := h.path_of_reduce hlang hextras hb hmem
  refine ⟨hextra, fun hforms => ?_, fun c hc hforms => ?_⟩
  · rw [hsymbol] at hforms
    obtain ⟨op, p, hsymbols, hlevel⟩ := hranks.operation hpath hreduce hforms
    rw [hsymbols] at hpath hreduce
    obtain ⟨left, others, hfilter, hleft, hothers⟩ := List.map_eq_cons_iff.mp hsymbols
    obtain ⟨opTree, others, rfl, hop, hothers⟩ := List.map_eq_cons_iff.mp hothers
    obtain ⟨right, others, rfl, hright, hothers⟩ := List.map_eq_cons_iff.mp hothers
    obtain rfl := List.map_eq_nil_iff.mp hothers
    -- the three of them with what stands beside the grammar between them
    have hall : ((children ++ extras).filter fun t => !t.isExtra) = [left, opTree, right] := by
      rw [List.filter_append, hfilter, List.filter_eq_nil_iff.mpr (by simpa using hextras)]
      rfl
    obtain ⟨m₁, m₁', _, _, hstep₁, hstate₁, -, hrest, hfilter₁⟩ := h.next hall
    obtain ⟨m₂, m₂', _, _, hstep₂, hstate₂, hfollowed, hrest, hfilter₂⟩ := hrest.next hfilter₁
    obtain ⟨m₃, m₃', _, _, hstep₃, hstate₃, -, hrest, hfilter₃⟩ := hrest.next hfilter₂
    have hstate := hrest.state_of_extras hfilter₃
    have hplain : ∀ t ∈ [left, opTree, right], t.isExtra = false := by
      intro t ht
      rw [← hfilter] at ht
      simpa using (List.mem_filter.mp ht).2
    -- the operator has been heard where it stands
    have hlow := (hranks.operator _ hlevel).2.2.1
    obtain ⟨k, rfl⟩ := exists_token_of_step hstep₂ (hplain opTree (by simp)) (hop ▸ hlow)
    obtain ⟨hheard, hunrivalled⟩ := (pushed_of_step hstep₂).heard k rfl
    replace hunrivalled := hunrivalled (hplain (.token k) (by simp))
    have hleads₁ := (leads_of_step hstep₁).2 (hplain left (by simp))
    have hleads₃ := (leads_of_step hstep₃).2 (hplain right (by simp))
    rw [hleft] at hleads₁
    rw [hright, ← hstate] at hleads₃
    rw [hstate₂] at hunrivalled
    refine ⟨left, .token k, right, p, hfilter, hleft, hright, ?_, fun q hq => ?_, fun q hq => ?_⟩
    · rw [hsymbol, hop]
      exact hlevel
    · exact Parse.left_of_bound hranks hd hclear hlang
        ((pushed_of_step hstep₁).bound q (.inr hq)) hleads₁ (hop ▸ hlevel) hheard hunrivalled hfollowed
    · exact Parse.right_of_bound hranks ((pushed_of_step hstep₃).bound q (.inr hq)) hleads₃ hlevel
        hpath hreduce
  · rw [hsymbol]
    refine (hranks.wraps hpath hreduce).2 ⟨c.symbol, List.mem_map_of_mem (List.mem_filter.mpr
      ⟨hc, ?_⟩), hforms⟩
    simp [h.not_extra hranks (List.mem_append_left _ hc) hforms]

end Reductions

/-! ## Parsing keeps to it -/

section Parsing

variable {env : Setting} (hlang : env.lang.Orderly) (hlossless : env.lang.Lossless)
  (hsource : env.source = Source.ofText text) (hgen : env.lang.Generated g)
  (hclosing : env.lang.Closing) (hd : env.lang.Accordant d) (hclear : d.Clear env.lang)
  (hrivals : env.lang.Resolves d rivals) (hranks : env.lang.Ranks d rivals o)

include hlang hclosing

/-- Where a reading stands after a reduction, and that it has met no error on the way. -/
theorem calm_of_reduce {a b : Spot} {children extras : List Tree} {count production : Nat}
    {symbol token : Symbol} (ambiguous : Bool) (ha : (Law.derived env.lang g text).stands a)
    (hchain : (Law.ranked env.lang g text rivals o).Chain a (children ++ extras) count b)
    (hextras : ∀ e ∈ extras, e.isExtra = true) (htrimmed : Trimmed count children) (hb : b.Calm)
    (hmem : .reduce symbol count production ∈ env.lang.actions b.state token) :
    a.Calm ∧ (a.reach (some (Parse.settle ambiguous a.state (Tree.ofChildren env.lang env.generation
      symbol production children))) (env.lang.nextState a.state symbol)).Calm := by
  have hlanded : (Law.charged env.lang g text (Law.derived env.lang g text).whole Spot.Calm).Landed
      env b symbol count production _ :=
    ⟨a, children, extras, ambiguous, ha, hchain.chargedChain, hextras, htrimmed, rfl⟩
  have hcalm := calm_of_landed hlang hclosing hmem hlanded hb
  refine ⟨⟨(hchain.cost_eq_zero hb.1).1, fun hstate => hb.2
    (hchain.chargedChain.derivedChain.spelledChain.paidChain.recovering hstate)⟩, ?_, fun hstate =>
      hcalm.2 ((Spot.state_along rfl extras).trans hstate)⟩
  have hcost := hcalm.1
  rw [Spot.cost_along] at hcost
  exact Nat.eq_zero_of_add_eq_zero_right hcost

include hlossless hsource hgen hd hclear hranks

/-- **Reductions of a reading without errors rank what they build.** -/
theorem ranked_reduces {b : Spot} {k : Token} {symbol : Symbol} {count production : Nat} (hb : b.Calm)
    (hk : Heard env.lang (Source.ofText text) b.position k)
    (hunrivalled : Unrivalled env.lang (Source.ofText text) rivals b.state b.position k.symbol)
    (hmem : .reduce symbol count production ∈ env.lang.actions b.state k.symbol) :
    (Law.ranked env.lang g text rivals o).Reduces env b symbol count production := by
  intro a children extras ambiguous ha hchain hextras htrimmed
  obtain ⟨hstep, hrow⟩ := charged_reduces hlang hlossless hsource hgen hclosing hmem ambiguous ha
    hchain.chargedChain hextras htrimmed
  obtain ⟨hacalm, hcalm⟩ := calm_of_reduce hlang hclosing ambiguous ha hchain hextras htrimmed hb hmem
  obtain ⟨mid, n, n', hchildren, hbehind, rfl⟩ := hchain.split
  obtain ⟨root, hnode, hsymbol, hextra⟩ : ∃ root : Branch, Parse.settle ambiguous a.state
      (Tree.ofChildren env.lang env.generation symbol production children) = .branch root children
        ∧ root.symbol = symbol ∧ root.extra = false := by
    rw [Tree.ofChildren_eq]
    cases ambiguous with
    | false => exact ⟨_, rfl, Branch.symbol_summarize .., Branch.extra_summarize ..⟩
    | true => exact ⟨_, rfl, Branch.symbol_summarize .., Branch.extra_summarize ..⟩
  rw [hnode] at hstep hrow hcalm ⊢
  have hposition : mid.position = a.position + (Tree.branch root children).totalSize := by
    rw [hchildren.position, ← hnode, Parse.totalSize_settle, Tree.totalSize_ofChildren]
  refine ⟨⟨hstep, hacalm, hcalm, _, rfl, {
      ranked := .branch (hchain.ranked_of_reduce hlang hranks hd hclear hextras hb hmem hsymbol
        hextra) fun c hc => by
          obtain ⟨a', stop, hpushed⟩ := hchildren.pushed hc
          exact hpushed.ranked
      heard := fun k hk => by simp at hk
      extra := fun htrue => absurd (htrue.symm.trans hextra) (by simp)
      bound := fun q hq => by
        show Parse.Bound _ _ _ _ _ _ (a.position + _)
        rw [← hposition]
        exact hchildren.bound_of_reduce hlang hranks hbehind hextras htrimmed.1 hb hmem hk hunrivalled
          (show (Tree.branch root children).symbol = symbol from hsymbol) rfl hq }⟩, ?_⟩
  exact hbehind.row hcalm.2 hextras hcalm hposition.symm hrow

omit hlossless hsource hgen hd hclear hranks in
include hrivals in
/-- **A token has no rival behind a reduction on it.** -/
theorem ranked_lands {b c : Spot} {k : Token} {symbol : Symbol} {count production : Nat}
    (hb : b.Calm)
    (hunrivalled : Unrivalled env.lang (Source.ofText text) rivals b.state b.position k.symbol)
    (hmem : .reduce symbol count production ∈ env.lang.actions b.state k.symbol)
    (hc : (Law.ranked env.lang g text rivals o).Landed env b symbol count production c) :
    c.Calm ∧ Unrivalled env.lang (Source.ofText text) rivals c.state c.position k.symbol := by
  obtain ⟨a, children, extras, ambiguous, ha, hchain, hextras, htrimmed, rfl⟩ := hc
  have hlanded : (Law.charged env.lang g text (Law.derived env.lang g text).whole Spot.Calm).Landed
      env b symbol count production _ :=
    ⟨a, children, extras, ambiguous, ha, hchain.chargedChain, hextras, htrimmed, rfl⟩
  refine ⟨calm_of_landed hlang hclosing hmem hlanded hb, ?_⟩
  obtain ⟨hpath, hreduce⟩ := hchain.path_of_reduce hlang hextras hb hmem
  have hposition := hchain.position
  rw [Tree.totalSizes_append] at hposition
  have hstate : ((a.reach (some (Parse.settle ambiguous a.state (Tree.ofChildren env.lang
      env.generation symbol production children))) (env.lang.nextState a.state symbol)).along
        (env.lang.nextState a.state symbol) extras).state = env.lang.nextState a.state symbol :=
    Spot.state_along rfl extras
  rw [hstate, Spot.position_along, Spot.reach]
  simp only [Parse.totalSize_settle, Tree.totalSize_ofChildren]
  rw [Extent.add_assoc, ← hposition]
  exact hunrivalled.reduce hrivals hpath hreduce

omit hlossless hsource hclosing hd hclear in
/-- **The root of a complete tree is ranked**: it stands over what the node of the start rule stood over,
and over what stands beside the grammar. -/
theorem ranked_root {b : Spot} {t root : Tree} {trees : List Tree} {count : Nat}
    (hchain : (Law.ranked env.lang g text rivals o).Chain Spot.origin trees count b) (hb : b.Calm)
    (hwaits : (Law.ranked env.lang g text rivals o).waits b.position t)
    (hmem : .accept ∈ env.lang.actions b.state t.firstSymbol)
    (hroot : Parse.rootOf env (trees ++ [t]) = some root) : root.Ranked o := by
  obtain ⟨hcharged, k, rfl, -⟩ := hwaits
  have hextra : (Tree.token k).isExtra = true :=
    hcharged.1.1.1.1.of_token.endOfText (hlang.accept _ _ hmem)
  obtain ⟨front, top, extras, rfl, htop, hextras, rfl⟩ := Parse.rootOf_concat_eq_some hextra hroot
  obtain ⟨-, hcosts⟩ := hchain.cost_eq_zero hb.1
  obtain ⟨hfront, -, b', cs, rfl⟩ := derived_top hlang hgen hchain.chargedChain.derivedChain htop
    hextras hmem hcosts
  have hfront := Tree.grammarSymbols_eq_nil.mp hfront
  -- what stands beside the grammar is a token
  have htoken : ∀ c ∈ front ++ Tree.branch b' cs :: extras, c.isExtra = true →
      ∃ k, c = Tree.token k ∧ k.symbol < env.lang.tokenCount := by
    intro c hc hextra
    obtain ⟨a, stop, hpushed⟩ := hchain.pushed hc
    obtain ⟨k, rfl, hk⟩ := hpushed.extra hextra
    exact ⟨k, rfl, Parse.lt_of_isExtraToken hk⟩
  have hin : Tree.branch b' cs ∈ front ++ Tree.branch b' cs :: extras := by simp
  obtain ⟨a, stop, hpushed⟩ := hchain.pushed hin
  have htop' := Tree.Every.of_branch hpushed.ranked
  have hfilter : ((front ++ cs ++ (extras ++ [Tree.token k])).filter fun c => !c.isExtra)
      = cs.filter fun c => !c.isExtra := by
    have hnone : ∀ ts : List Tree, (∀ c ∈ ts, c.isExtra = true) →
        (ts.filter fun c => !c.isExtra) = [] := fun _ h => List.filter_eq_nil_iff.mpr (by simpa using h)
    rw [List.filter_append, List.filter_append, hnone front hfront, hnone (extras ++ [Tree.token k])
      (by simpa [or_imp, forall_and] using ⟨hextras, hextra⟩), List.nil_append, List.append_nil]
  have hmembers : ∀ c ∈ front ++ cs ++ (extras ++ [Tree.token k]),
      c ∈ cs ∨ ∃ k, c = Tree.token k ∧ k.symbol < env.lang.tokenCount := by
    intro c hc
    simp only [List.mem_append, List.mem_singleton] at hc
    rcases hc with (hc | hc) | hc | rfl
    · exact .inr (htoken c (by simp [hc]) (hfront c hc))
    · exact .inl hc
    · exact .inr (htoken c (by simp [hc]) (hextras c hc))
    · exact .inr ⟨k, rfl, (Language.mem_actions hmem).1⟩
  rw [Tree.ofChildren_eq]
  refine .branch ⟨Branch.extra_summarize .., fun hforms => ?_, fun c hc hforms => ?_⟩ fun c hc => ?_
  · rw [Branch.symbol_summarize] at hforms ⊢
    rw [show (Tree.branch b' cs).children = cs from rfl, hfilter]
    exact htop'.operation hforms
  · rw [Branch.symbol_summarize]
    rcases hmembers c hc with hc | ⟨k, rfl, hk⟩
    · exact htop'.wrapped c hc hforms
    · exact absurd hforms (hranks.not_forms hk)
  · rcases hmembers c hc with hc | ⟨k, rfl, hk⟩
    · exact Tree.Every.of_mem hpushed.ranked hc
    · exact .token (hranks.not_forms hk)

include hlossless hsource hgen hd hclear hranks hrivals

/-- **Readings without errors rank operations.** -/
theorem advances_ranked : (Law.ranked env.lang g text rivals o).Advances env := by
  have hc := advances_calm hlang hlossless hsource hgen hclosing
  have hd' := closed_derived hlang hlossless hsource hgen
  exact {
    origin := hc.origin
    read := fun {a} ha htops => by
      refine ⟨⟨(hc.read ha htops).1, _, rfl, ?_⟩, fun k hk => ?_⟩
      · rw [hsource]
        exact heard_next a.state
      · obtain rfl := Tree.token.inj hk
        rw [hsource]
        exact unrivalled_next hd hclear hrivals a.state a.position
    cached := fun _ _ hwaits hreuse k hk => by
      obtain ⟨-, k', hk', hheard⟩ := hwaits
      obtain rfl := Tree.token.inj hk
      obtain rfl := Tree.token.inj hk'
      exact unrivalled_of_canReuse hd hclear hrivals rfl hheard hreuse
    word := fun {a t} ha hwaits hfaces hkeyword hidle => by
      obtain ⟨hcharged, k, rfl, hheard⟩ := hwaits
      refine ⟨⟨(hc.word ha hcharged trivial hkeyword hidle).1, _, rfl, hheard.asWord hkeyword⟩,
        fun k' hk' => ?_⟩
      obtain rfl := Tree.token.inj hk'
      exact Unrivalled.asWord hd hclear hrivals (hfaces k rfl) hheard hkeyword hidle
    reuse := fun h => absurd h id
    shift := fun {a t next} ha htops hwaits hfaces hleaf hmem => by
      obtain ⟨hcharged, k, rfl, hheard⟩ := hwaits
      obtain ⟨hstep, hcalm⟩ := hc.shift ha htops hcharged trivial hleaf hmem
      rw [Tree.shifted_token] at hstep hcalm ⊢
      exact ⟨⟨hstep, htops, hcalm, _, rfl, pushed_token
        (hranks.not_forms (Language.mem_actions hmem).1) (hheard.withExtra false)
        (fun _ => hfaces k rfl) (by simp)⟩, hcalm⟩
    shiftExtra := fun {a t} ha htops hwaits hleaf hmem => by
      obtain ⟨hcharged, k, rfl, hheard⟩ := hwaits
      obtain ⟨hstep, hcalm⟩ := hc.shiftExtra ha htops hcharged hleaf hmem
      rw [Tree.shifted_token] at hstep hcalm ⊢
      exact ⟨⟨hstep, htops, hcalm, _, rfl, pushed_token
        (hranks.not_forms (Language.mem_actions hmem).1) (hheard.withExtra true)
        (by simp) (fun _ => hlang.beside _ _ hmem)⟩, hcalm⟩
    shiftPart := fun {a t} extra tooLarge _ _ hwaits hleaf _ => by
      obtain ⟨-, k, rfl, -⟩ := hwaits
      exact absurd hleaf (by simp [Tree.isLeaf, Tree.children])
    reduces := fun {b t symbol count production} _ htops hwaits hfaces hmem => by
      obtain ⟨-, k, rfl, hheard⟩ := hwaits
      exact ranked_reduces hlang hlossless hsource hgen hclosing hd hclear hranks htops hheard
        (hfaces k rfl) hmem
    lands := fun {b c t symbol count production} _ hwaits hfaces hmem hc hb => by
      obtain ⟨-, k, rfl, -⟩ := hwaits
      obtain ⟨hcalm, hunrivalled⟩ := ranked_lands hlang hclosing hrivals hb (hfaces k rfl) hmem hc
      refine ⟨hcalm, fun k' hk' => ?_⟩
      obtain rfl := Tree.token.inj hk'
      exact hunrivalled
    accept := fun {b t trees count root} hchain hstands htops hwaits hmem hroot =>
      ⟨hd'.accept hchain.chargedChain.derivedChain hstands hwaits.1.1 hmem hroot,
        ranked_root hlang hgen hranks hchain htops hwaits hmem hroot⟩
    divide := fun h => absurd h id
    divides := fun h => absurd h id
    recovers := fun _ htops hmem => absurd (hclosing.recover hmem) htops.2 }

end Parsing

end Law

end SyntaxKit
