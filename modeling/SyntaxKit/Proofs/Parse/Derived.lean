import SyntaxKit.Proofs.Parse.Beside
import SyntaxKit.Proofs.Tree.Derived

/-!
# What costs nothing is derived

A subtree that a parse puts on a stack, that costs nothing and that is not followed by the state of
recovery, is derived, and its symbol leads from the state below it to the state above
(`Law.derived`).  So what is below a state is a path of the automaton as long as nothing in it costs
anything, and a reduction takes a word of its rule from it.  In the end, a complete tree that costs
nothing is a derived tree of the start rule.
-/

namespace SyntaxKit

variable {lang : Language} {g : Grammar.Listed} {text : List Char}

namespace Tree

/-- What stands beside the grammar and costs nothing is a token, and derived. -/
theorem Beside.derived {t : Tree} (h : t.Beside lang g) (ht : t.Consistent lang)
    (hlang : lang.Orderly) (hextra : t.isExtra = true) (hcost : t.errorCost = 0) :
    t.Derived lang g := by
  cases h with
  | @token k root =>
    have hbound : k.symbol < lang.tokenCount := by
      rcases root hextra with hend | ⟨hlt, -⟩
      · rw [hend]
        exact hlang.someToken
      · exact hlt
    refine .token ⟨hbound, fun hfalse => absurd (hextra.symm.trans hfalse) (by simp), ?_⟩
    intro _ hend
    rcases root hextra with hend' | ⟨-, hpattern⟩
    · exact absurd hend' hend
    · exact hpattern
  | @branch b cs root children =>
    have herror : b.holdsErrors = true := Branch.holdsErrors_iff.mpr (.inl (root hextra))
    have hpos := (Every.of_branch ht).errors herror
    have hzero : b.errorCost = 0 := hcost
    omega

/-- The symbols of some trees that do not stand beside the grammar. -/
def grammarSymbols (ts : List Tree) : List Symbol :=
  (ts.filter fun t => !t.isExtra).map (·.symbol)

theorem grammarSymbols_append (ts us : List Tree) :
    grammarSymbols (ts ++ us) = grammarSymbols ts ++ grammarSymbols us := by
  simp [grammarSymbols]

theorem grammarSymbols_eq_nil {ts : List Tree} :
    grammarSymbols ts = [] ↔ ∀ t ∈ ts, t.isExtra = true := by
  simp [grammarSymbols, List.filter_eq_nil_iff]

theorem derived_ofChildren {generation : Nat} {symbol : Symbol} {production : Nat}
    {cs : List Tree} (hbound : lang.tokenCount ≤ symbol ∧ symbol < lang.symbols.size)
    (hword : ∃ r, g.meaning? (lang.kindOf symbol) = some r
      ∧ Grammar.Word g.inner none r (lang.spelling production 0 (grammarSymbols cs)))
    (hlist : g.list? (lang.kindOf symbol) ≠ none → lang.productions.getD production [] = [])
    (htrimmed : lang.kindOf symbol ≠ .rule g.start → Trimmed cs)
    (hcs : ∀ c ∈ cs, c.Derived lang g) :
    (ofChildren lang generation symbol production cs).Derived lang g := by
  rw [ofChildren_eq]
  refine .branch ⟨?_, Branch.extra_summarize lang _ cs, ?_, ?_, ?_⟩ hcs
  · rw [Branch.symbol_summarize]
    exact hbound
  · rw [Branch.symbol_summarize, Branch.production_summarize, map_letter_members]
    exact hword
  · rw [Branch.symbol_summarize, Branch.production_summarize]
    exact hlist
  · rw [Branch.symbol_summarize]
    exact htrimmed

theorem Derived.settle {t : Tree} (h : t.Derived lang g) (ambiguous : Bool) (state : ParseState) :
    (Parse.settle ambiguous state t).Derived lang g := by
  cases h with
  | token root => exact .token root
  | branch root children =>
    cases ambiguous <;>
      exact .branch ⟨root.bound, root.grammar, root.word, root.list, root.trimmed⟩ children

end Tree

/-! ## The law -/

/-- What costs nothing is derived and leads from the state below it to the state above. -/
def Law.derived (lang : Language) (g : Grammar.Listed) (text : List Char) : Law where
  stands := (Law.spelled lang text).stands
  step a t b := ((Law.spelled lang text).step a t b ∧ (Law.beside lang g).step a t b)
    ∧ ∀ u, t = some u → b.state ≠ ParseState.recovering → u.isExtra = false → u.errorCost = 0 →
      u.Derived lang g ∧ lang.Leads a.state u.symbol b.state
  waits p t := (Law.spelled lang text).waits p t ∧ (Law.beside lang g).waits p t
  faces _ _ := True
  tops _ := True
  divides _ := False
  spare _ _ := False
  whole t := ((Law.spelled lang text).whole t ∧ (Law.beside lang g).whole t)
    ∧ (t.errorCost = 0 → t.Derived lang g ∧ lang.kindOf t.symbol = .rule g.start
      ∧ ∃ b cs, t = .branch b cs)
  stands_of_step h := (Law.spelled lang text).stands_of_step h.1.1
  step_congr h hstands hstate hbytes hcost :=
    ⟨⟨(Law.spelled lang text).step_congr h.1.1 hstands hstate hbytes hcost,
      (Law.beside lang g).step_congr h.1.2 trivial hstate hbytes hcost⟩, by
        rw [hstate]
        exact h.2⟩
  bytes_of_step h := h.1.2.1
  cost_of_step h := h.1.2.2.2
  waits_congr h ha hbytes := ⟨(Law.spelled lang text).waits_congr h.1 ha hbytes, h.2⟩
  spare_children := @Law.none_spare

namespace Law

variable {env : Setting}

theorem Chain.spelledChain {a b : Spot} {ts : List Tree} {n : Nat}
    (h : (Law.derived lang g text).Chain a ts n b) : (Law.spelled lang text).Chain a ts n b :=
  h.mono fun {_ _ _} (hstep : (Law.derived lang g text).step _ _ _) => hstep.1.1

theorem Chain.besideChain {a b : Spot} {ts : List Tree} {n : Nat}
    (h : (Law.derived lang g text).Chain a ts n b) : (Law.beside lang g).Chain a ts n b :=
  h.mono fun {_ _ _} (hstep : (Law.derived lang g text).step _ _ _) => hstep.1.2

/-- Unless recovery has begun, the length of a chain counts what does not stand beside the
grammar. -/
theorem Chain.count_eq {a b : Spot} {ts : List Tree} {n : Nat}
    (h : (Law.spelled lang text).Chain a ts n b) (hb : b.state ≠ ParseState.recovering) :
    n = (Tree.grammarSymbols ts).length := by
  induction h with
  | nil a => rfl
  | mark first rest ih => exact absurd rfl (Chain.ne_recovering first.1 rest.paidChain hb).1
  | @tree a m b t ts n first rest ih =>
    have hn := ih hb
    cases hextra : t.isExtra <;> simp_all [Tree.grammarSymbols]

/-- **What lies below a state and costs nothing is derived, and its symbols are a path of the
automaton.** -/
theorem Chain.derived (hlang : lang.Orderly) {a b : Spot} {ts : List Tree} {n : Nat}
    (h : (Law.derived lang g text).Chain a ts n b) (hb : b.state ≠ ParseState.recovering)
    (hcost : ∀ t ∈ ts, t.errorCost = 0) :
    (∀ t ∈ ts, t.Derived lang g) ∧ lang.Path a.state (Tree.grammarSymbols ts) b.state := by
  induction h with
  | nil a => exact ⟨by simp, rfl⟩
  | mark first rest ih =>
    exact absurd rfl (Chain.ne_recovering first.1.1.1 rest.spelledChain.paidChain hb).1
  | @tree a m b t ts n first rest ih =>
    have hm := (Chain.ne_recovering first.1.1.1 rest.spelledChain.paidChain hb).2
    obtain ⟨hderived, hpath⟩ := ih hb fun u hu => hcost u (List.mem_cons_of_mem _ hu)
    obtain ⟨⟨hspelled, -, hbeside, -⟩, hnew⟩ := first
    have hfree := hcost t (List.mem_cons_self ..)
    cases hextra : t.isExtra with
    | true =>
      have held := hspelled.1.2.2.2.2.1 t rfl
      have hstate := (held.leads hm).extra hextra
      have ht := (hbeside t rfl).derived held.consistent hlang hextra hfree
      refine ⟨List.forall_mem_cons.mpr ⟨ht, hderived⟩, ?_⟩
      rw [← hstate]
      simpa [Tree.grammarSymbols, hextra] using hpath
    | false =>
      obtain ⟨ht, hleads⟩ := hnew t rfl hm hextra hfree
      refine ⟨List.forall_mem_cons.mpr ⟨ht, hderived⟩, ?_⟩
      have hcons : Tree.grammarSymbols (t :: ts) = t.symbol :: Tree.grammarSymbols ts := by
        simp [Tree.grammarSymbols, hextra]
      rw [hcons]
      exact ⟨_, hleads, hpath⟩

/-- **The children of a reduction that cost nothing are a path of the automaton**, as long as it
says, to the state in which it is made. -/
theorem Chain.path (hlang : lang.Orderly) {a b : Spot} {children extras : List Tree} {count : Nat}
    (h : (Law.derived lang g text).Chain a (children ++ extras) count b)
    (hextras : ∀ e ∈ extras, e.isExtra = true) (hb : b.state ≠ ParseState.recovering)
    (hcost : ∀ c ∈ children, c.errorCost = 0) :
    (∀ c ∈ children, c.Derived lang g)
      ∧ lang.Path a.state (Tree.grammarSymbols children) b.state
      ∧ count = (Tree.grammarSymbols children).length := by
  -- behind the children the state does not change, and what is there is not counted
  have hcount := h.spelledChain.count_eq hb
  rw [Tree.grammarSymbols_append, Tree.grammarSymbols_eq_nil.mpr hextras, List.append_nil] at hcount
  obtain ⟨m, k, l, hleft, hright, -⟩ := h.split
  have hstate := hright.spelledChain.paidChain.state_eq hextras hb
  obtain ⟨hderived, hpath⟩ := hleft.derived hlang (hstate ▸ hb) hcost
  exact ⟨hderived, hstate ▸ hpath, hcount⟩

/-- The node of a reduction costs something if one of its children does. -/
theorem errorCost_reduce_pos_iff (hlang : env.lang.Orderly) {a b : Spot}
    {children extras : List Tree} {symbol : Symbol} {count production : Nat} {token : Symbol}
    (ambiguous : Bool) (hchain : (Law.derived env.lang g text).Chain a (children ++ extras) count b)
    (hmem : .reduce symbol count production ∈ env.lang.actions b.state token) :
    0 < (Parse.settle ambiguous a.state (Tree.ofChildren env.lang env.generation symbol production
      children)).errorCost ↔ ∃ c ∈ children, 0 < c.errorCost := by
  obtain ⟨-, hlow⟩ := hlang.reduce _ _ _ _ _ hmem
  have hconsistent := (held_reduce hlang ambiguous trivial hchain.spelledChain.paidChain hmem
    ParseState.recovering).consistent
  have herrors : ((Tree.freshBranch env.generation symbol production).summarize env.lang
      children).holdsErrors = false := by
    rw [Branch.holdsErrors_summarize, Branch.holdsErrors_eq_false_iff]
    exact ⟨Nat.ne_of_lt (Nat.lt_trans hlow (by decide)), Nat.ne_of_lt hlow⟩
  rw [Tree.ofChildren_eq] at hconsistent ⊢
  cases ambiguous with
  | false => exact hconsistent.root.costs herrors
  | true => exact hconsistent.root.costs herrors

/-! ### Parsing keeps to it -/

/-- Nothing more is to be known of what stands beside the grammar, costs something, or is followed by
the state of recovery. -/
theorem derived_step {a : Spot} {u : Tree} {state : ParseState}
    (hspelled : (Law.spelled lang text).step a (some u) (a.reach (some u) state))
    (hbeside : (Law.beside lang g).step a (some u) (a.reach (some u) state))
    (hnew : state ≠ ParseState.recovering → u.isExtra = false → u.errorCost = 0 →
      u.Derived lang g ∧ lang.Leads a.state u.symbol state) :
    (Law.derived lang g text).step a (some u) (a.reach (some u) state) := by
  refine ⟨⟨hspelled, hbeside⟩, fun v hv => ?_⟩
  obtain rfl : u = v := Option.some.inj hv
  exact hnew

theorem derived_row {state : ParseState} (extras : List Tree) :
    ∀ {a : Spot}, (Law.spelled lang text).Row state a extras →
      (Law.beside lang g).Row state a extras → (∀ e ∈ extras, e.isExtra = true) →
      (Law.derived lang g text).Row state a extras := by
  induction extras with
  | nil => exact fun _ _ _ => trivial
  | cons e rest ih =>
    intro a hspelled hbeside hextras
    refine ⟨derived_step hspelled.1 hbeside.1 fun _ hextra => ?_,
      ih hspelled.2 hbeside.2 fun x hx => hextras x (List.mem_cons_of_mem _ hx)⟩
    exact absurd (hextra.symm.trans (hextras e (List.mem_cons_self ..))) (by simp)

/-- **The node of a reduction is derived** if it costs nothing. -/
theorem derived_reduce (hlang : env.lang.Orderly) (hgen : env.lang.Generated g) {a b : Spot}
    {children extras : List Tree} {symbol : Symbol} {count production : Nat} {token : Symbol}
    (ambiguous : Bool) (hchain : (Law.derived env.lang g text).Chain a (children ++ extras) count b)
    (hextras : ∀ e ∈ extras, e.isExtra = true) (htrimmed : Trimmed count children)
    (hmem : .reduce symbol count production ∈ env.lang.actions b.state token)
    (hcost : (Parse.settle ambiguous a.state (Tree.ofChildren env.lang env.generation symbol
      production children)).errorCost = 0) :
    (Parse.settle ambiguous a.state (Tree.ofChildren env.lang env.generation symbol production
      children)).Derived env.lang g := by
  have hb := state_ne_recovering hlang hmem (by simp) (by simp)
  obtain ⟨hlow, -⟩ := hlang.reduce _ _ _ _ _ hmem
  have hfree : ∀ c ∈ children, c.errorCost = 0 := by
    have hnone := (not_congr (errorCost_reduce_pos_iff hlang ambiguous hchain hmem)).mp (by omega)
    intro c hc
    by_contra hpos
    exact hnone ⟨c, hc, Nat.pos_of_ne_zero hpos⟩
  obtain ⟨hderived, hpath, hcount⟩ := hchain.path hlang hextras hb hfree
  rw [hcount] at hmem
  obtain ⟨hhigh, hword, hlist⟩ := hgen.reduce hpath hmem
  -- as many children as are counted stand in the grammar, so none beside it is the first one
  have hfirst : ∀ c, children.head? = some c → c.isExtra = false := by
    intro c hc
    by_contra hextra
    have hfewer := htrimmed.2 c hc (by simpa using hextra)
    rw [hcount, Tree.grammarSymbols, List.length_map, ← List.countP_eq_length_filter] at hfewer
    exact Nat.lt_irrefl _ hfewer
  exact (Tree.derived_ofChildren ⟨hlow, hhigh⟩ hword hlist (fun _ => ⟨hfirst, htrimmed.1⟩)
    hderived).settle ambiguous a.state

/-- A complete tree that costs nothing is made of what costs nothing. -/
theorem costless_of_root (hlang : env.lang.Orderly) {b : Spot} {t : Tree} {trees : List Tree}
    {count : Nat} {root : Tree} {token : Symbol}
    (hchain : (Law.derived env.lang g text).Chain Spot.origin trees count b)
    (hextra : t.isExtra = true) (hmem : .accept ∈ env.lang.actions b.state token)
    (hroot : Parse.rootOf env (trees ++ [t]) = some root) (hpaid : root.Consistent env.lang)
    (hcost : root.errorCost = 0) : ∀ u ∈ trees ++ [t], u.errorCost = 0 := by
  obtain ⟨front, top, extras, rfl, htop, hextras, rfl⟩ :=
    Parse.rootOf_concat_eq_some hextra hroot
  obtain ⟨b', cs, rfl⟩ : ∃ b' cs, top = .branch b' cs := by
    cases top with
    | token k => exact absurd rfl (hchain.spelledChain.paidChain.top_ne_token hlang htop hextras hmem k)
    | branch b' cs => exact ⟨b', cs, rfl⟩
  rw [Tree.ofChildren_eq] at hpaid hcost
  obtain ⟨herrors, hcosts⟩ := Tree.Consistent.costless hpaid hcost
  -- the node that is replaced by the root costs nothing either
  have htopCost : b'.errorCost = 0 := by
    have hconsistent := Tree.Every.of_branch
      (hchain.spelledChain.paidChain.consistent (.branch b' cs) (by simp))
    have hsame : b'.holdsErrors = false := by
      rw [Branch.holdsErrors_summarize] at herrors
      exact herrors
    by_contra hpos
    obtain ⟨c, hc, hcpos⟩ := (hconsistent.costs hsame).mp (Nat.pos_of_ne_zero hpos)
    exact absurd (hcosts c (by simp [Tree.children, hc])) (Nat.ne_of_gt hcpos)
  intro u hu
  simp only [List.mem_append, List.mem_cons, List.not_mem_nil, or_false] at hu
  rcases hu with (hu | rfl | hu) | rfl
  · exact hcosts u (by simp [hu])
  · exact htopCost
  · exact hcosts u (by simp [hu])
  · exact hcosts u (by simp)

/-- Where a text is accepted, nothing lies before the node of the start rule but what stands beside the
grammar. -/
theorem derived_top (hlang : lang.Orderly) (hgen : lang.Generated g) {b : Spot} {top : Tree}
    {front extras : List Tree} {count : Nat} {token : Symbol}
    (hchain : (Law.derived lang g text).Chain Spot.origin (front ++ top :: extras) count b)
    (htop : top.isExtra = false) (hextras : ∀ e ∈ extras, e.isExtra = true)
    (hmem : .accept ∈ lang.actions b.state token)
    (hcosts : ∀ u ∈ front ++ top :: extras, u.errorCost = 0) :
    Tree.grammarSymbols front = [] ∧ lang.kindOf top.symbol = .rule g.start
      ∧ ∃ b cs, top = .branch b cs := by
  obtain ⟨-, hpath⟩ := hchain.derived hlang (state_ne_recovering hlang hmem (by simp) (by simp)) hcosts
  obtain ⟨s, hsymbols, hstart⟩ := hgen.accept hpath hmem
  have hcons : Tree.grammarSymbols (top :: extras) = [top.symbol] := by
    rw [Tree.grammarSymbols, List.filter_cons_of_pos (by simp [htop]), List.map_cons]
    exact congrArg _ (Tree.grammarSymbols_eq_nil.mpr hextras)
  rw [Tree.grammarSymbols_append, hcons] at hsymbols
  obtain ⟨hfront, hsame⟩ := List.append_inj'
    (show Tree.grammarSymbols front ++ [top.symbol] = [] ++ [s] from hsymbols) rfl
  obtain rfl : top.symbol = s := by simpa using hsame
  refine ⟨hfront, hstart, ?_⟩
  cases top with
  | token k => exact absurd rfl (hchain.spelledChain.paidChain.top_ne_token hlang htop hextras hmem k)
  | branch b cs => exact ⟨b, cs, rfl⟩

/-- **A complete tree that costs nothing is derived**, and it follows the start rule. -/
theorem derived_root (hlang : env.lang.Orderly) (hgen : env.lang.Generated g) {b : Spot} {t : Tree}
    {trees : List Tree} {count : Nat} {root : Tree} {token : Symbol}
    (hchain : (Law.derived env.lang g text).Chain Spot.origin trees count b)
    (ht : t.Consistent env.lang ∧ t.Beside env.lang g) (hextra : t.isExtra = true)
    (hmem : .accept ∈ env.lang.actions b.state token)
    (hroot : Parse.rootOf env (trees ++ [t]) = some root) (hpaid : root.Consistent env.lang)
    (hcost : root.errorCost = 0) : root.Derived env.lang g
      ∧ env.lang.kindOf root.symbol = .rule g.start ∧ ∃ b cs, root = .branch b cs := by
  have hb := state_ne_recovering hlang hmem (by simp) (by simp)
  have hcosts := costless_of_root hlang hchain hextra hmem hroot hpaid hcost
  obtain ⟨front, top, extras, rfl, htop, hextras, rfl⟩ :=
    Parse.rootOf_concat_eq_some hextra hroot
  have htrees : ∀ u ∈ front ++ top :: extras, u.errorCost = 0 :=
    fun u hu => hcosts u (List.mem_append_left _ hu)
  obtain ⟨hderived, -⟩ := hchain.derived hlang hb htrees
  -- nothing but the node lies below the state in which the text is complete
  obtain ⟨hfront, hstart, b', cs, rfl⟩ := derived_top hlang hgen hchain htop hextras hmem htrees
  have htderived : t.Derived env.lang g :=
    ht.2.derived ht.1 hlang hextra (hcosts t (by simp))
  have hroot := Tree.Every.of_branch (hderived (.branch b' cs) (by simp))
  have hsymbol : (Tree.ofChildren env.lang env.generation b'.symbol (Parse.productionOf
      (.branch b' cs)) (front ++ cs ++ (extras ++ [t]))).symbol = b'.symbol := by simp
  refine ⟨?_, (congrArg _ hsymbol).trans hstart, _, _, Tree.ofChildren_eq ..⟩
  refine Tree.derived_ofChildren hroot.bound ?_ hroot.list (fun hne => absurd hstart hne)
    fun c hc => ?_
  · have hword := hroot.word
    have hall : Tree.grammarSymbols (front ++ cs ++ (extras ++ [t])) = Tree.grammarSymbols cs := by
      have hbehind : Tree.grammarSymbols (extras ++ [t]) = [] := by
        refine Tree.grammarSymbols_eq_nil.mpr fun e he => ?_
        rcases List.mem_append.mp he with he | he
        · exact hextras e he
        · exact List.mem_singleton.mp he ▸ hextra
      rw [Tree.grammarSymbols_append, Tree.grammarSymbols_append, hfront, hbehind]
      simp
    rw [Tree.map_letter_members] at hword
    rw [show (Tree.branch b' cs).children = cs from rfl, hall]
    exact hword
  · simp only [Tree.children, List.mem_append, List.mem_singleton] at hc
    rcases hc with (hc | hc) | hc | rfl
    · exact hderived c (by simp [hc])
    · exact Tree.Every.of_mem (hderived (.branch b' cs) (by simp)) hc
    · exact hderived c (by simp [hc])
    · exact htderived

/-- The tree of a text that has been given up costs something. -/
theorem errorCost_giveUp_pos {p : Extent} {t : Tree} {trees : List Tree} {root : Tree}
    (hpart : (Law.spelled lang text).Part p t) (hend : t.isEndOfText = true)
    (hroot : Parse.rootOf env
      (trees ++ [Tree.ofChildren env.lang env.generation Symbol.error 0 [], t]) = some root) :
    0 < root.errorCost := by
  -- such a tree is text in error as a whole
  obtain ⟨k, -, -, -, -, rfl, -⟩ := (exists_of_part hpart).2
  have hsymbol : (Tree.token k).symbol = Symbol.endOfText := by
    simpa [Tree.isEndOfText] using hend
  have hextra : (Tree.token k).isExtra = true :=
    (exists_of_part hpart).1.1.of_token.endOfText hsymbol
  rw [Parse.rootOf_append (by simp) hextra] at hroot
  obtain rfl := Option.some.inj hroot
  rw [Tree.symbol_ofChildren]
  exact Tree.errorCost_ofChildren_pos _ (.inl rfl)

/-- A token that is shifted is derived. -/
theorem derived_shifted (hlang : lang.Orderly) {state next : ParseState} {k : Token}
    (hmem : .shift next false ∈ lang.actions state k.symbol)
    (hextra : ((Tree.token k).shifted false).isExtra = false) :
    ((Tree.token k).shifted false).Derived lang g
      ∧ lang.Leads state ((Tree.token k).shifted false).symbol next := by
  have hbound := (Language.mem_actions hmem).1
  have hend := hlang.shift _ _ _ _ hmem
  have hshifted : ∃ k', (Tree.token k).shifted false = .token k' ∧ k'.symbol = k.symbol := by
    rw [Tree.shifted]
    split
    · exact ⟨_, rfl, rfl⟩
    · exact ⟨_, rfl, rfl⟩
  obtain ⟨k', hk', hsymbol⟩ := hshifted
  rw [hk'] at hextra ⊢
  refine ⟨.token ⟨hsymbol ▸ hbound, fun _ => hsymbol ▸ hend, fun htrue => ?_⟩, .inl ?_⟩
  · exact absurd (htrue.symm.trans hextra) (by simp)
  · rw [Tree.symbol, hsymbol]
    exact hmem

/-- What is skipped costs something, and so does what ends up in error. -/
theorem derived_step_recovering {a : Spot} {u : Tree}
    (hspelled : (Law.spelled lang text).step a (some u) (a.reach (some u) ParseState.recovering))
    (hbeside : (Law.beside lang g).step a (some u) (a.reach (some u) ParseState.recovering)) :
    (Law.derived lang g text).step a (some u) (a.reach (some u) ParseState.recovering) :=
  derived_step hspelled hbeside fun h => absurd rfl h

/-- **A parse from scratch keeps to the grammar as long as nothing costs anything.** -/
theorem closed_derived (hlang : env.lang.Orderly) (hlossless : env.lang.Lossless)
    (hsource : env.source = Source.ofText text) (hgen : env.lang.Generated g) :
    (Law.derived env.lang g text).Closed env := by
  have hs : (Law.spelled env.lang text).Closed env := closed_spelled hlang hlossless hsource
  have hb : (Law.beside env.lang g).Closed env := closed_beside hlang hlossless hgen
  have hparts : ∀ {p u}, (Law.derived env.lang g text).Part p u →
      (Law.spelled env.lang text).Part p u ∧ (Law.beside env.lang g).Part p u := by
    rintro p u ⟨t, tooLarge, ⟨hspelled, hbeside⟩, rfl⟩
    exact ⟨⟨t, tooLarge, hspelled, rfl⟩, t, tooLarge, hbeside, rfl⟩
  exact {
    tops := fun _ => trivial
    faces := fun _ _ => trivial
    origin := hs.origin
    read := fun {a} ha state => ⟨hs.read ha state, hb.read (a := a) trivial state⟩
    word := fun h hkeyword => ⟨hs.word h.1 hkeyword, hb.word h.2 hkeyword⟩
    reuse := fun h => absurd h id
    shift := fun {a t next} ha h hleaf hmem => by
      refine derived_step (hs.shift ha h.1 hleaf hmem) (hb.shift (a := a) trivial h.2 hleaf hmem)
        fun _ hextra _ => ?_
      obtain ⟨k, rfl, -⟩ := h.2
      exact derived_shifted hlang hmem hextra
    shiftExtra := fun {a t} ha h hleaf hmem => by
      have hspelled := hs.shiftExtra ha h.1 hleaf hmem
      refine derived_step hspelled (hb.shiftExtra (a := a) trivial h.2 hleaf hmem)
        fun _ hfalse _ => ?_
      obtain ⟨k, rfl, -⟩ := h.2
      have hextra : ((Tree.token k).shifted true).isExtra = true := by
        rw [Tree.shifted]
        split
        · rfl
        · next hsame => simpa [Tree.isLeaf, Tree.children] using hsame
      exact absurd (hextra.symm.trans hfalse) (by simp)
    shiftPart := fun {a t} extra tooLarge _ h hleaf _ => by
      obtain ⟨k, rfl, -⟩ := h.2
      exact absurd hleaf (by simp [Tree.isLeaf, Tree.children])
    reduce := fun {a b children extras symbol count production token} ambiguous ha hchain hextras
        htrimmed hmem => by
      have hspelled := hs.reduce ambiguous ha hchain.spelledChain hextras htrimmed hmem
      have hbeside := hb.reduce ambiguous (a := a) trivial hchain.besideChain hextras htrimmed hmem
      refine ⟨derived_step hspelled.1 hbeside.1 fun hstate _ hcost => ⟨?_, .inr ?_⟩,
        derived_row extras hspelled.2 hbeside.2 hextras⟩
      · exact derived_reduce hlang hgen ambiguous hchain hextras htrimmed hmem hcost
      · rw [Tree.symbol_settle, Tree.symbol_ofChildren]
        exact ⟨(hlang.reduce _ _ _ _ _ hmem).1, hstate, rfl⟩
    mark := fun {a} ha => ⟨⟨hs.mark ha, hb.mark (a := a) trivial⟩, by simp⟩
    missing := fun {a token first looked} ha hpos hlt hleads hmoves hreduces =>
      derived_step (hs.missing ha hpos hlt hleads hmoves hreduces)
        (hb.missing (a := a) trivial hpos hlt hleads hmoves hreduces) fun _ _ hcost => by
          simp [Tree.missingToken, Tree.errorCost, prices] at hcost
    wrap := fun {a m b error trees children extras count count'} ha hm hstate hchain herror hsplit
        hextras => by
      have hspelled := hs.wrap ha hm hstate hchain.spelledChain
        (herror.imp_right fun h => h.imp fun e h => ⟨h.1, h.2.1, h.2.2.spelledChain⟩) hsplit hextras
      have hbeside := hb.wrap (a := a) (m := m) trivial trivial hstate hchain.besideChain
        (herror.imp_right fun h => h.imp fun e h => ⟨h.1, h.2.1, h.2.2.besideChain⟩) hsplit hextras
      split
      · next hnil =>
        rw [if_pos hnil] at hspelled hbeside
        exact derived_row extras hspelled hbeside hextras
      · next hne =>
        rw [if_neg hne] at hspelled hbeside
        refine ⟨derived_step hspelled.1 hbeside.1 fun _ hextra => ?_,
          derived_row extras hspelled.2 hbeside.2 hextras⟩
        simp at hextra
    skip := fun {b t} hstands hpart => derived_step_recovering (hs.skip hstands (hparts hpart).1)
      (hb.skip (b := b) trivial (hparts hpart).2)
    skipOver := fun {a b t trees count} ha hb' hchain hpart =>
      derived_step_recovering (hs.skipOver ha hb' hchain.spelledChain (hparts hpart).1)
        (hb.skipOver (a := a) (b := b) trivial trivial hchain.besideChain (hparts hpart).2)
    accept := fun {b t trees count root} hchain hstands h hmem hroot => by
      have hspelled := hs.accept hchain.spelledChain hstands h.1 hmem hroot
      have hbeside := hb.accept hchain.besideChain (b := b) trivial h.2 hmem hroot
      refine ⟨⟨hspelled, hbeside⟩, ?_⟩
      obtain ⟨k, hk, -⟩ := h.2
      subst hk
      have hend := hlang.accept _ _ hmem
      have hextra : (Tree.token k).isExtra = true := h.1.1.1.of_token.endOfText hend
      have hpart := beside_of_part (part_of_waits h.2)
      exact derived_root hlang hgen hchain ⟨h.1.1.1, hpart⟩ hextra hmem hroot hspelled.1.1
    giveUp := fun {b t trees count root} hchain hstands hpart hend hroot => by
      have hspelled := hs.giveUp hchain.spelledChain hstands (hparts hpart).1 hend hroot
      have hbeside := hb.giveUp hchain.besideChain (b := b) trivial (hparts hpart).2 hend hroot
      exact ⟨⟨hspelled, hbeside⟩, fun hcost =>
        absurd hcost (Nat.ne_of_gt (errorCost_giveUp_pos (hparts hpart).1 hend hroot))⟩
    divide := fun h => absurd h id }

end Law

end SyntaxKit
