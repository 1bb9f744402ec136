import SyntaxKit.Proofs.Parse.Held

/-!
# Every tree of a parse is paid for

Parsing keeps to `Law.paid` (`Law.closed_paid`).  So no reduction and no root ever takes in text that is
to be paid for, except as part of a node in error, which pays for it; and the leaves of a complete
tree begin and end where the text may be cut.
-/

namespace SyntaxKit

namespace Law

variable {lang : Language} {env : Setting} {cut : Cutting}

/-! ## Subtrees that are pushed -/

theorem state_ne_recovering (hlang : lang.Orderly) {state : ParseState} {token : Symbol} {a : Action}
    (ha : a ∈ lang.actions state token) (hrecover : a ≠ .recover) (hextra : a ≠ .shiftExtra) :
    state ≠ ParseState.recovering := by
  rintro rfl
  rcases hlang.recovering token a ha with h | h
  · exact hrecover h
  · exact hextra h

theorem reach_recovering (hlang : lang.Orderly) {state : ParseState} (s : Symbol)
    (h : state = ParseState.recovering) : lang.nextState state s = ParseState.recovering := by
  rw [h]
  exact hlang.stays s

theorem nextState_of_error {state : ParseState} {s : Symbol}
    (h : s = Symbol.error ∨ s = Symbol.skipped) :
    lang.nextState state s = ParseState.recovering := by
  rw [Language.nextState, if_pos h]

/-- A leaf on which its state acts is a token of the language. -/
theorem symbol_of_leaf (hlang : lang.Orderly) {state : ParseState} {t : Tree} {a : Action}
    (hleaf : t.isLeaf = true) (ha : a ∈ lang.actions state t.firstSymbol) :
    t.symbol < lang.tokenCount ∧ t.symbol ≠ Symbol.error ∧ t.symbol ≠ Symbol.skipped := by
  have htoken := (Language.mem_actions ha).1
  rw [Tree.firstSymbol_of_isLeaf hleaf] at htoken
  exact ⟨htoken, hlang.token_ne htoken⟩

/-- No marked node has the label of a token. -/
theorem exists_token {t : Tree} (hmarked : (∀ k, t ≠ .token k) → t.Marked lang)
    (htoken : t.symbol < lang.tokenCount) : ∃ k, t = .token k := by
  by_contra hnode
  have hnode : ∀ k, t ≠ .token k := fun k hk => hnode ⟨k, hk⟩
  exact absurd ((hmarked hnode).tokenCount_le hnode) (Nat.not_le.mpr htoken)

/-- A leaf on which its state acts, as it is shifted. -/
theorem shifted_of_leaf (hlang : lang.Orderly) {a : Spot} {t : Tree} (extra : Bool) {x : Action}
    (h : (Law.paid lang cut).waits a.position t) (hleaf : t.isLeaf = true)
    (hmem : x ∈ lang.actions a.state t.firstSymbol)
    (hend : t.symbol = Symbol.endOfText → extra = true)
    (hbeside : extra = false → Parse.isExtraToken lang t.symbol = false) :
    ∃ k, t.shifted extra = .token k ∧ k.symbol = t.symbol ∧ k.extra = extra
      ∧ (t.shifted extra).Consistent lang ∧ (t.shifted extra).Marked lang := by
  obtain ⟨ht, -, -, hmarked⟩ := h
  obtain ⟨htoken, herror, hskipped⟩ := symbol_of_leaf hlang hleaf hmem
  obtain ⟨k, rfl⟩ := exists_token hmarked htoken
  refine ⟨{ k with extra }, Tree.shifted_token extra k, rfl, rfl, ht.shifted extra herror hskipped hend, ?_⟩
  rw [Tree.shifted_token]
  exact Tree.marked_token hbeside

/-- A leaf that is shifted. -/
theorem paid_shift (hlang : lang.Orderly) {a : Spot} {t : Tree} {next : ParseState}
    (ha : cut.cuts a.position) (h : (Law.paid lang cut).waits a.position t)
    (hleaf : t.isLeaf = true) (hshift : .shift next false ∈ lang.actions a.state t.firstSymbol) :
    (Law.paid lang cut).step a (some (t.shifted false)) (a.reach (some (t.shifted false)) next) := by
  obtain ⟨-, herror, hskipped⟩ := symbol_of_leaf hlang hleaf hshift
  have hsymbol := Tree.firstSymbol_of_isLeaf hleaf
  have hend := hsymbol ▸ hlang.shift _ _ _ _ hshift
  obtain ⟨k, hk, hks, hextra, hconsistent, hmarked⟩ := shifted_of_leaf hlang false h hleaf
    hshift (fun h => absurd h hend) fun _ => hsymbol ▸ hlang.apart _ _ _ _ hshift
  have hne : (t.shifted false).symbol = t.symbol := Tree.symbol_shifted ..
  have hfalse : (t.shifted false).isExtra = false := by rw [hk]; exact hextra
  refine paid_step ha ⟨hconsistent, h.2.1.shifted false, hmarked, ?_, fun _ => ?_⟩ fun hrecovering => ?_
  · rintro (hunpaid | ⟨hunpaid, -⟩)
    · exact absurd (hne ▸ hunpaid) hskipped
    · exact absurd (hne ▸ hunpaid) herror
  · exact {
      extra := fun h => absurd (h.symm.trans hfalse) (by simp)
      error := fun h => absurd (hne ▸ (by simpa [Tree.isError] using h)) herror
      token := fun _ _ => hlang.complete _ _ _ _ hshift }
  · exact absurd hrecovering (state_ne_recovering hlang hshift (by simp) (by simp))

/-- A leaf that is shifted as an extra. -/
theorem paid_shiftExtra (hlang : lang.Orderly) {a : Spot} {t : Tree}
    (ha : cut.cuts a.position) (h : (Law.paid lang cut).waits a.position t)
    (hleaf : t.isLeaf = true) (hshift : .shiftExtra ∈ lang.actions a.state t.firstSymbol) :
    (Law.paid lang cut).step a (some (t.shifted true)) (a.reach (some (t.shifted true)) a.state) := by
  obtain ⟨k, hk, -, hextra, hconsistent, hmarked⟩ := shifted_of_leaf hlang true h hleaf
    hshift (fun _ => rfl) (by simp)
  exact paid_step ha (held_extra hconsistent (h.2.1.shifted true) hmarked (hk ▸ hextra) fun _ => rfl) id

/-- A token held in the state that it leads to. -/
theorem held_token (hlang : lang.Orderly) {a : Spot} {k : Token} (ht : (Tree.token k).Consistent lang)
    (haligned : (Tree.token k).Aligned cut.lies a.position.bytes) (htoken : k.symbol < lang.tokenCount)
    (hextra : k.extra = Parse.isExtraToken lang k.symbol) :
    (Tree.token k).Held lang cut a (lang.nextState a.state k.symbol) := by
  obtain ⟨herror, hskipped⟩ := hlang.token_ne htoken
  refine ⟨ht, haligned, Tree.marked_token fun h => hextra ▸ h, ?_, fun hne => ?_⟩
  · rintro (h | ⟨h, -⟩)
    · exact absurd h hskipped
    · exact absurd h herror
  · refine ⟨fun h => ?_, fun h => absurd (by simpa [Tree.isError, Tree.symbol] using h) herror,
      fun h _ => ?_⟩
    · rcases hlang.nextState_token a.state htoken with hstate | ⟨-, hstate⟩ | ⟨hfalse, -⟩
      · exact absurd hstate hne
      · exact hstate
      · exact absurd (hfalse.symm.trans (hextra.symm.trans h)) (by simp)
    · rcases hlang.nextState_token a.state htoken with hstate | ⟨htrue, -⟩ | ⟨-, hnone⟩
      · exact absurd hstate hne
      · exact absurd (htrue.symm.trans (hextra.symm.trans h)) (by simp)
      · exact hnone

/-- A node held in the state that it leads to. -/
theorem held_next {a : Spot} {t : Tree} (ht : t.Consistent lang)
    (haligned : t.Aligned cut.lies a.position.bytes) (hmarked : t.Marked lang)
    (hnode : ∀ k, t ≠ .token k) : t.Held lang cut a (lang.nextState a.state t.symbol) := by
  by_cases herrors : t.symbol = Symbol.error ∨ t.symbol = Symbol.skipped
  · rw [nextState_of_error herrors]
    exact held_recovering ht haligned hmarked
  · obtain ⟨herror, hskipped⟩ := not_or.mp herrors
    refine held_node ht haligned hmarked ?_ herror hskipped hnode
    by_contra hextra
    exact herror (hmarked.symbol_of_isExtra (by simpa using hextra) hnode)

/-- The first part of a larger subtree that is shifted. -/
theorem paid_shiftPart (hlang : lang.Orderly) {a : Spot} {t : Tree} {extra : Bool}
    {tooLarge : Tree → Bool} (ha : cut.cuts a.position)
    (h : (Law.paid lang cut).waits a.position t) (hleaf : t.isLeaf = false)
    (hshift : if extra then .shiftExtra ∈ lang.actions a.state t.firstSymbol
      else ∃ next, .shift next false ∈ lang.actions a.state t.firstSymbol) :
    (Law.paid lang cut).step a (some ((t.firstPart tooLarge).shifted extra))
      (a.reach (some ((t.firstPart tooLarge).shifted extra))
        (lang.nextState a.state (t.firstPart tooLarge).symbol)) := by
  obtain ⟨ht, haligned, -, hmarked⟩ := h
  have hmarked : t.Marked lang := hmarked fun k hk => by simp [hk, Tree.isLeaf, Tree.children] at hleaf
  have hpart := ht.firstPart tooLarge
  have hfirst := ht.firstSymbol_firstPart tooLarge
  have hpartAligned := haligned.firstPart ht tooLarge
  have hpartMarked := hmarked.firstPart tooLarge
  generalize t.firstPart tooLarge = u at hpart hfirst hpartAligned hpartMarked
  refine paid_step ha ?_ (reach_recovering hlang u.symbol)
  rw [← hfirst] at hshift
  cases hu : u.isLeaf with
  | false =>
    rw [Tree.shifted, hu, Bool.false_and, if_neg Bool.false_ne_true]
    exact held_next hpart hpartAligned hpartMarked
      fun k hk => by simp [hk, Tree.isLeaf, Tree.children] at hu
  | true =>
    have hmem : ∃ x, x ∈ lang.actions a.state u.firstSymbol := by
      cases extra with
      | true => exact ⟨_, hshift⟩
      | false => exact ⟨_, hshift.choose_spec⟩
    obtain ⟨htoken, herror, hskipped⟩ := symbol_of_leaf hlang hu hmem.choose_spec
    obtain ⟨k, rfl⟩ := exists_token (fun _ => hpartMarked) htoken
    -- what stands beside the grammar is shifted as such, and nothing else is
    have hextra : extra = Parse.isExtraToken lang k.symbol := by
      cases extra with
      | true => exact (hlang.beside _ _ hshift).symm
      | false => exact (hlang.apart _ _ _ _ hshift.choose_spec).symm
    have hend : k.symbol = Symbol.endOfText → extra = true := by
      intro hend
      cases extra with
      | true => rfl
      | false => exact absurd hend (hlang.shift _ _ _ _ hshift.choose_spec)
    have hshifted := hpart.shifted extra herror hskipped hend
    have hshiftedAligned := hpartAligned.shifted extra
    rw [Tree.shifted_token] at hshifted hshiftedAligned ⊢
    exact held_token hlang hshifted hshiftedAligned htoken hextra

/-- A node over children that are aligned is aligned. -/
theorem aligned_ofChildren {generation : Nat} {symbol : Symbol} {production offset : Nat}
    {cs : List Tree} (hoffset : cut.lies offset (Extent.zero, Extent.zero)) (hcs : Tree.AlignedAll cut.lies offset cs) :
    (Tree.ofChildren lang generation symbol production cs).Aligned cut.lies offset :=
  Tree.aligned_branch hoffset hcs

/-- The node of a reduction. -/
theorem held_reduce (hlang : env.lang.Orderly) {a b : Spot} {children extras : List Tree}
    {symbol : Symbol} {count production : Nat} {token : Symbol} (ambiguous : Bool)
    (ha : cut.cuts a.position) (hchain : (Law.paid env.lang cut).Chain a (children ++ extras) count b)
    (hreduce : .reduce symbol count production ∈ env.lang.actions b.state token)
    (next : ParseState) :
    (Parse.settle ambiguous a.state (Tree.ofChildren env.lang env.generation symbol production
      children)).Held env.lang cut a next := by
  have hpaid := hchain.paid (state_ne_recovering hlang hreduce (by simp) (by simp))
  obtain ⟨hlow, hhigh⟩ := hlang.reduce _ _ _ _ _ hreduce
  have hsome := hlang.someToken
  have hsymbol : (Parse.settle ambiguous a.state (Tree.ofChildren env.lang env.generation symbol
      production children)).symbol = symbol :=
    (Tree.symbol_settle ..).trans (Tree.symbol_ofChildren ..)
  refine held_node (Tree.Consistent.settle (Tree.consistent_ofChildren ?_ ?_ ?_ ?_) ambiguous a.state)
    ((aligned_ofChildren (cut.empty ha) hchain.aligned_append.1).settle ambiguous a.state)
    (Tree.Marked.settle (Tree.marked_ofChildren hlow ?_) ambiguous a.state) (by simp) ?_ ?_
    (Tree.settle_ofChildren_ne_token ambiguous a.state symbol production children)
  · rintro rfl
    rw [Symbol.endOfText] at hlow
    omega
  · exact fun c hc => (hpaid c (List.mem_append_left _ hc)).1
  · rintro rfl
    exact absurd hhigh (Nat.lt_irrefl _)
  · exact fun _ _ c hc => (hpaid c (List.mem_append_left _ hc)).2
  · exact fun c hc => hchain.marked c (List.mem_append_left _ hc)
  · rw [hsymbol]
    exact Nat.ne_of_lt (Nat.lt_trans hhigh (by decide))
  · rw [hsymbol]
    exact Nat.ne_of_lt hhigh

/-- The list of skipped text that a token becomes. -/
theorem held_skippedOver (hlang : env.lang.Orderly) {p : Extent} {t : Tree} (hp : cut.cuts p)
    (h : (Law.paid env.lang cut).Part p t) :
    (skippedOver env t).Consistent env.lang ∧ (skippedOver env t).Aligned cut.lies p.bytes
      ∧ (skippedOver env t).Marked env.lang := by
  obtain ⟨u, tooLarge, ⟨hu, haligned, -, hmarked⟩, rfl⟩ := h
  have ht := hu.firstPart tooLarge
  have haligned := haligned.firstPart hu tooLarge
  have hmarked : (∀ k, u.firstPart tooLarge ≠ .token k) → (u.firstPart tooLarge).Marked env.lang := by
    intro hnode
    refine (hmarked ?_).firstPart tooLarge
    rintro k rfl
    exact hnode k rfl
  generalize u.firstPart tooLarge = t at ht haligned hmarked
  -- what stands beside the grammar is marked so before it is skipped
  have hchild : ∀ c, c = (if Parse.isExtraToken env.lang t.symbol then t.setExtra true else t) →
      c.Consistent env.lang ∧ c.Aligned cut.lies p.bytes ∧ c.Marked env.lang := by
    rintro c rfl
    split
    · next hextra =>
      have htoken : t.symbol < env.lang.tokenCount := by
        by_contra hle
        rw [Parse.isExtraToken, Language.actions_eq_nil (Nat.le_of_not_lt hle)] at hextra
        simp at hextra
      obtain ⟨herror, hskipped⟩ := hlang.token_ne htoken
      obtain ⟨k, rfl⟩ := exists_token hmarked htoken
      exact ⟨ht.setExtra (fun h => absurd h herror) (fun _ => rfl) hskipped,
        (Tree.aligned_setExtra true).mpr haligned, Tree.marked_token (by simp)⟩
    · next hextra =>
      refine ⟨ht, haligned, ?_⟩
      cases t with
      | token k => exact Tree.marked_token fun _ => by simpa [Tree.symbol] using hextra
      | branch b cs => exact hmarked (by simp)
  rw [skippedOver]
  obtain ⟨hc, hcAligned, hcMarked⟩ := hchild _ rfl
  generalize (if Parse.isExtraToken env.lang t.symbol then t.setExtra true else t) = c
    at hc hcAligned hcMarked
  refine ⟨Tree.consistent_ofChildren (by decide) (by simpa using hc) (by simp)
      fun _ hne => absurd rfl hne, aligned_ofChildren (cut.empty hp) (Tree.alignedAll_singleton.mpr hcAligned), ?_⟩
  exact Tree.marked_ofChildren hlang.tokens (by simpa using hcMarked)

/-- What is wrapped when a reading goes back to an earlier state. -/
theorem paid_wrap (hlang : env.lang.Orderly) {a m b : Spot} {error : Option Tree}
    {trees children extras : List Tree} {count count' : Nat} (hstands : cut.cuts a.position)
    (hm : m.state ≠ ParseState.recovering)
    (hchain : (Law.paid env.lang cut).Chain m trees count b)
    (herror : error = none ∧ a = m ∨ ∃ e, error = some e ∧ e.isError = true
      ∧ (Law.paid env.lang cut).Chain a [e] count' m)
    (hsplit : (error.map Tree.children).getD [] ++ trees = children ++ extras)
    (hextras : ∀ e ∈ extras, e.isExtra = true) :
    if children = [] then (Law.paid env.lang cut).Row m.state a extras
    else (Law.paid env.lang cut).step a (some ((Tree.ofChildren env.lang env.generation Symbol.error 0
          children).setExtra true))
        (a.reach (some ((Tree.ofChildren env.lang env.generation Symbol.error 0
          children).setExtra true)) m.state)
      ∧ (Law.paid env.lang cut).Row m.state (a.reach (some ((Tree.ofChildren env.lang env.generation
          Symbol.error 0 children).setExtra true)) m.state) extras := by
  -- the children of the error below, if there is one, are where it is
  have hall : m.state = a.state
      ∧ (∀ c ∈ children ++ extras, c.Consistent env.lang ∧ c.Marked env.lang)
      ∧ Tree.AlignedAll cut.lies a.position.bytes (children ++ extras) := by
    rw [← hsplit]
    rcases herror with ⟨rfl, rfl⟩ | ⟨e, rfl, herror, hbelow⟩
    · exact ⟨rfl, fun c hc => ⟨hchain.consistent c hc, hchain.marked c hc⟩, hchain.aligned⟩
    · have held := (hbelow.step_of_singleton hm).2.2.2.2.1 e rfl
      have hchildren : ∀ c ∈ e.children, c.Consistent env.lang :=
        fun c hc => held.consistent.of_mem hc
      refine ⟨hbelow.state_eq_of_isError hm herror, fun c hc => ?_,
        (Tree.alignedAll_append hchildren).mpr ⟨held.aligned.children, ?_⟩⟩
      · rcases List.mem_append.mp hc with hc | hc
        · exact ⟨hchildren c hc, held.marked.of_mem hc⟩
        · exact ⟨hchain.consistent c hc, hchain.marked c hc⟩
      · have hbytes := hbelow.bytes
        rw [Tree.totalSizes_cons, Tree.totalSizes_nil, Extent.add_zero] at hbytes
        rw [← held.consistent.totalSizes_children_of_paid
          (hbelow.paid hm e (List.mem_singleton_self e)).2 (by simpa [Tree.isError] using herror)]
          at hbytes
        exact hbytes ▸ hchain.aligned
  obtain ⟨hstate, hheld, haligned⟩ := hall
  have hstays : a.state = ParseState.recovering → m.state = ParseState.recovering := hstate.trans
  have hrow : ∀ e ∈ extras, e.Consistent env.lang ∧ e.Marked env.lang ∧ e.isExtra = true := by
    intro e he
    obtain ⟨hconsistent, hmarked⟩ := hheld e (List.mem_append_right _ he)
    exact ⟨hconsistent, hmarked, hextras e he⟩
  have hconsistent : ∀ c ∈ children, c.Consistent env.lang :=
    fun c hc => (hheld c (List.mem_append_left _ hc)).1
  obtain ⟨hfront, hback⟩ := (Tree.alignedAll_append hconsistent).mp haligned
  split
  · next hnil =>
    rw [hnil] at hback
    exact paid_row extras hstands hrow hback hstays fun _ => hstate
  · next hne =>
    have hnode : (Tree.ofChildren env.lang env.generation Symbol.error 0 children).Consistent
        env.lang :=
      Tree.consistent_ofChildren (by decide) hconsistent (fun h => absurd h (by decide))
        fun h => absurd rfl h
    have hset : ((Tree.ofChildren env.lang env.generation Symbol.error 0 children).setExtra
        true).Consistent env.lang := hnode.setExtra (fun _ h => absurd (by simpa using h) hne)
      (by simp) (by simp [Symbol.error, Symbol.skipped])
    have hnodeAligned : (Tree.ofChildren env.lang env.generation Symbol.error 0 children).Aligned
        cut.lies a.position.bytes := aligned_ofChildren (cut.empty hstands) hfront
    have hnodeMarked : (Tree.ofChildren env.lang env.generation Symbol.error 0 children).Marked
        env.lang := Tree.marked_ofChildren (Nat.le_trans hlang.tokens (by decide))
      fun c hc => (hheld c (List.mem_append_left _ hc)).2
    have hsetAligned := (Tree.aligned_setExtra true).mpr hnodeAligned
    refine ⟨paid_step hstands (held_extra hset hsetAligned
        (hnodeMarked.setExtra_error (Tree.symbol_ofChildren ..) (by simp [Tree.ofChildren_eq]))
        (by simp) fun _ => hstate) hstays,
      paid_row extras (hset.cuts_stop hstands hsetAligned) hrow ?_ id fun _ => rfl⟩
    simpa [Spot.reach, Tree.totalSize_ofChildren] using hback

/-! ## Complete trees -/

theorem paid_ofChildren_error {generation : Nat} {production : Nat} {cs : List Tree}
    (hcs : ∀ c ∈ cs, c.Consistent lang) :
    (Tree.ofChildren lang generation Symbol.error production cs).Paid lang := by
  refine ⟨Tree.consistent_ofChildren (by decide) hcs (fun h => absurd h (by decide))
    fun h => absurd rfl h, ?_⟩
  have hcost : 0 < (Tree.ofChildren lang generation Symbol.error production cs).errorCost :=
    Tree.errorCost_ofChildren_pos cs (.inl rfl)
  rintro (hskipped | ⟨-, hzero⟩)
  · rw [Tree.symbol_ofChildren] at hskipped
    exact absurd hskipped (by decide)
  · omega

/-- The root over subtrees none of which is text to be paid for. -/
theorem paid_root {trees : List Tree} {root : Tree} (hroot : Parse.rootOf env trees = some root)
    (htrees : ∀ t ∈ trees, t.Paid env.lang) : root.Paid env.lang := by
  obtain ⟨front, top, extras, rfl, hextra, -, rfl⟩ := Parse.rootOf_eq_some hroot
  obtain ⟨hconsistent, hunpaid⟩ := htrees top (by simp)
  have hskipped : top.symbol ≠ Symbol.skipped := fun h => hunpaid (.inl h)
  have hend : top.symbol ≠ Symbol.endOfText := by
    cases hconsistent with
    | token root =>
      intro h
      have htrue := root.endOfText h
      simp [Tree.isExtra, htrue] at hextra
    | branch root _ => exact root.symbol
  -- what is under the root was on the stack, or under the last subtree on it
  have hmem : ∀ c ∈ front ++ top.children ++ extras,
      c.Paid env.lang ∨ c ∈ top.children := by
    intro c hc
    rcases List.mem_append.mp hc with hc | hc
    · rcases List.mem_append.mp hc with hc | hc
      · exact .inl (htrees c (List.mem_append_left _ hc))
      · exact .inr hc
    · exact .inl (htrees c (by simp [hc]))
  have hall : ∀ c ∈ front ++ top.children ++ extras, c.Consistent env.lang :=
    fun c hc => (hmem c hc).elim And.left hconsistent.of_mem
  by_cases herror : top.symbol = Symbol.error
  · rw [herror]
    exact paid_ofChildren_error hall
  · have hpaid : ∀ c ∈ front ++ top.children ++ extras, ¬c.Unpaid :=
      fun c hc => (hmem c hc).elim And.right (hconsistent.not_unpaid_of_mem herror hskipped)
    refine ⟨Tree.consistent_ofChildren hend hall (fun h => absurd h hskipped)
      fun _ _ => hpaid, ?_⟩
    rintro (h | ⟨h, -⟩)
    · exact hskipped (by simpa using h)
    · exact herror (by simpa using h)

/-- What a reading waits with and its state acts on is no text to be paid for. -/
theorem paid_of_actions (hlang : lang.Orderly) {state : ParseState} {t : Tree} {a : Action}
    (ht : t.Consistent lang) (hskipped : t.symbol ≠ Symbol.skipped)
    (ha : a ∈ lang.actions state t.firstSymbol) : t.Paid lang := by
  refine ⟨ht, ?_⟩
  rintro (h | ⟨herror, hcost⟩)
  · exact hskipped h
  · cases ht with
    | token root =>
      exact (hlang.token_ne (Language.mem_actions ha).1).1 herror
    | @branch b cs root _ =>
      have hpos := root.errors (Branch.holdsErrors_iff.mpr (.inl herror))
      have hzero : b.errorCost = 0 := hcost
      omega

/-- The last subtree that is not beside the grammar, below a state in which a text is complete, is
no token. -/
theorem Chain.top_ne_token (hlang : lang.Orderly) {a b : Spot} {front extras : List Tree}
    {top : Tree} {n : Nat} {token : Symbol}
    (h : (Law.paid lang cut).Chain a (front ++ top :: extras) n b)
    (htop : top.isExtra = false) (hextras : ∀ e ∈ extras, e.isExtra = true)
    (haccept : .accept ∈ lang.actions b.state token) : ∀ k, top ≠ .token k := by
  have hb := state_ne_recovering hlang haccept (by simp) (by simp)
  obtain ⟨m, -, l, -, hright, -⟩ := h.split
  generalize htrees : top :: extras = trees at hright
  cases hright with
  | nil a => simp at htrees
  | mark first rest => exact absurd rfl (Chain.ne_recovering first rest hb).1
  | @tree a m b t ts n first rest =>
    obtain ⟨rfl, rfl⟩ := List.cons.inj htrees
    rintro k rfl
    have hstate := rest.state_eq hextras hb
    have hleads := (first.2.2.2.2.1 _ rfl).leads (Chain.ne_recovering first rest hb).2
    exact hleads.token htop ⟨k, rfl⟩ token (hstate ▸ haccept)

/-- The root over subtrees the last of which, extras apart, is no token, has their leaves. -/
theorem aligned_root {front extras : List Tree} {top : Tree} {symbol : Symbol}
    {generation production : Nat}
    (htrees : ∀ t ∈ front ++ top :: extras, t.Consistent lang) (htop : ∀ k, top ≠ .token k)
    (hstart : cut.cuts Extent.zero) (haligned : Tree.AlignedAll cut.lies 0 (front ++ top :: extras)) :
    (Tree.ofChildren lang generation symbol production
      (front ++ top.children ++ extras)).Aligned cut.lies 0 := by
  have hfront : ∀ t ∈ front, t.Consistent lang := fun t ht => htrees t (by simp [ht])
  have hconsistent := htrees top (by simp)
  obtain ⟨hleft, hright⟩ := (Tree.alignedAll_append hfront).mp haligned
  obtain ⟨hthis, hbehind⟩ := (hconsistent.alignedAll_cons extras).mp hright
  refine aligned_ofChildren (cut.empty hstart) ?_
  rw [List.append_assoc]
  refine (Tree.alignedAll_append hfront).mpr ⟨hleft,
    (Tree.alignedAll_append fun c hc => hconsistent.of_mem hc).mpr ⟨hthis.children, ?_⟩⟩
  rw [hconsistent.totalSizes_children htop]
  exact hbehind

/-- What is kept when a text is complete. -/
theorem whole_accept (hlang : env.lang.Orderly) (hstart : cut.cuts Extent.zero) {b : Spot} {t : Tree}
    {trees : List Tree} {count : Nat} {root : Tree}
    (hchain : (Law.paid env.lang cut).Chain Spot.origin trees count b)
    (h : (Law.paid env.lang cut).waits b.position t)
    (hmem : .accept ∈ env.lang.actions b.state t.firstSymbol)
    (hroot : Parse.rootOf env (trees ++ [t]) = some root) : (Law.paid env.lang cut).whole root := by
  obtain ⟨ht, haligned, hskipped, hmarked⟩ := h
  have hend := hlang.accept _ _ hmem
  -- the end of the text stands beside the grammar
  have hextra : (∃ k, t = .token k) → t.isExtra = true := by
    rintro ⟨k, rfl⟩
    exact ht.of_token.endOfText hend
  have hmarked : t.Marked env.lang := by
    cases t with
    | token k => exact Tree.marked_token fun h => absurd (h.symm.trans (hextra ⟨k, rfl⟩)) (by simp)
    | branch b cs => exact hmarked (by simp)
  have hpaid : ∀ u ∈ trees ++ [t], u.Paid env.lang ∧ u.Marked env.lang := by
    intro u hu
    rcases List.mem_append.mp hu with hu | hu
    · exact ⟨hchain.paid (state_ne_recovering hlang hmem (by simp) (by simp)) u hu,
        hchain.marked u hu⟩
    · rw [List.mem_singleton] at hu
      exact hu ▸ ⟨paid_of_actions hlang ht hskipped hmem, hmarked⟩
  have hall : Tree.AlignedAll cut.lies 0 (trees ++ [t]) := by
    refine (Tree.alignedAll_append hchain.consistent).mpr ⟨hchain.aligned, ?_⟩
    rw [Tree.alignedAll_singleton]
    have hbytes := hchain.bytes
    exact hbytes ▸ haligned
  have hpaidRoot := paid_root hroot fun u hu => (hpaid u hu).1
  obtain ⟨front, top, extras, hsplit, htop, hextras, rfl⟩ := Parse.rootOf_eq_some hroot
  -- the last subtree that is not beside the grammar is a node
  have hnode : ∀ k, top ≠ .token k := by
    rcases List.eq_nil_or_concat extras with rfl | ⟨extras', last, rfl⟩
    · obtain ⟨-, heq⟩ := List.append_inj' hsplit rfl
      obtain rfl : t = top := by simpa using heq
      exact fun k hk => absurd (htop.symm.trans (hextra ⟨k, hk⟩)) (by simp)
    · rw [List.concat_eq_append, ← List.cons_append, ← List.append_assoc] at hsplit
      obtain ⟨rfl, -⟩ := List.append_inj' hsplit rfl
      exact hchain.top_ne_token hlang htop (fun e he => hextras e (by simp [he])) hmem
  rw [hsplit] at hpaid hall
  have hmarkedTop := (hpaid top (by simp)).2
  refine ⟨hpaidRoot, aligned_root (fun u hu => (hpaid u hu).1.1) hnode hstart hall,
    Tree.marked_ofChildren (hmarkedTop.tokenCount_le hnode) fun c hc => ?_⟩
  simp only [List.mem_append] at hc
  rcases hc with (hc | hc) | hc
  · exact (hpaid c (by simp [hc])).2
  · exact hmarkedTop.of_mem hc
  · exact (hpaid c (by simp [hc])).2

/-- At the end of the text everything is wrapped as an error. -/
theorem whole_giveUp (hlang : env.lang.Orderly) (hstart : cut.cuts Extent.zero) {b : Spot} {t : Tree}
    {trees : List Tree} {count : Nat} {root : Tree}
    (hchain : (Law.paid env.lang cut).Chain Spot.origin trees count b)
    (hpart : (Law.paid env.lang cut).Part b.position t) (hend : t.isEndOfText = true)
    (hroot : Parse.rootOf env (trees ++ [Tree.ofChildren env.lang env.generation Symbol.error 0 [], t])
      = some root) : (Law.paid env.lang cut).whole root := by
  obtain ⟨u, tooLarge, ⟨hu, haligned, -, -⟩, rfl⟩ := hpart
  have ht := hu.firstPart tooLarge
  have haligned := haligned.firstPart hu tooLarge
  generalize u.firstPart tooLarge = t at ht haligned hend hroot
  have hsymbol : t.symbol = Symbol.endOfText := by simpa [Tree.isEndOfText] using hend
  cases ht with
  | branch root _ => exact absurd hsymbol root.symbol
  | @token k hk =>
    have hextra : (Tree.token k).isExtra = true := hk.endOfText hsymbol
    rw [Parse.rootOf_append (by simp) hextra] at hroot
    obtain rfl := Option.some.inj hroot
    rw [Tree.symbol_ofChildren, Tree.children_ofChildren, List.append_nil]
    have htoken : (Tree.token k).Consistent env.lang := .token hk
    have hheld : ∀ c ∈ trees ++ [.token k], c.Consistent env.lang ∧ c.Marked env.lang := by
      intro c hc
      rcases List.mem_append.mp hc with hc | hc
      · exact ⟨hchain.consistent c hc, hchain.marked c hc⟩
      · rw [List.mem_singleton] at hc
        exact hc ▸ ⟨htoken, Tree.marked_token fun h => absurd (h.symm.trans hextra) (by simp)⟩
    refine ⟨paid_ofChildren_error fun c hc => (hheld c hc).1, aligned_ofChildren (cut.empty hstart) ?_,
      Tree.marked_ofChildren (Nat.le_trans hlang.tokens (by decide)) fun c hc => (hheld c hc).2⟩
    refine (Tree.alignedAll_append hchain.consistent).mpr ⟨hchain.aligned, ?_⟩
    rw [Tree.alignedAll_singleton]
    have hbytes := hchain.bytes
    exact hbytes ▸ haligned

/-! ## Parsing keeps to it -/

/-- The children of a node that lies on a stack may be pushed in its place. -/
theorem paid_divided (hlang : env.lang.Orderly) {extras : List Tree}
    (hextras : ∀ e ∈ extras, e.Consistent env.lang ∧ e.Marked env.lang ∧ e.isExtra = true)
    {children : List Tree} : ∀ {a : Spot}, cut.cuts a.position →
      (∀ c ∈ children, c.Consistent env.lang ∧ c.Marked env.lang) →
      Tree.AlignedAll cut.lies a.position.bytes (children ++ extras) →
      (Law.paid env.lang cut).Divided env extras a children := by
  induction children with
  | nil => exact fun ha _ haligned => paid_row extras ha hextras haligned id fun _ => rfl
  | cons c cs ih =>
    intro a ha hchildren haligned
    obtain ⟨hc, hmarked⟩ := hchildren c (List.mem_cons_self ..)
    rw [List.cons_append, hc.alignedAll_cons] at haligned
    refine ⟨paid_step ha ?_ fun hstate => ?_, id,
      ih (hc.cuts_stop ha haligned.1) (fun d hd => hchildren d (List.mem_cons_of_mem _ hd)) haligned.2⟩
    · rw [stateOver]
      split
      · exact held_recovering hc haligned.1 hmarked
      · split
        · next hextra => exact held_extra hc haligned.1 hmarked hextra fun _ => rfl
        · next herror hextra =>
          cases c with
          | branch b cs => exact held_next hc haligned.1 hmarked (by simp)
          | token k =>
            have htoken : k.symbol < env.lang.tokenCount :=
              hc.of_token.known.resolve_left (by simpa [Tree.isError, Tree.symbol] using herror)
            have hfalse : k.extra = false := by simpa [Tree.isExtra] using hextra
            exact held_token hlang hc haligned.1 htoken
              (hfalse.trans (hmarked.of_token hfalse).symm)
    · rw [stateOver]
      split
      · rfl
      · split
        · exact hstate
        · exact reach_recovering hlang c.symbol hstate

/-- **Parsing keeps all trees consistent and paid for**, and aligned to where the text may be cut if
the tokens that are read are. -/
theorem closed_paid (hlang : env.lang.Orderly) (hstart : cut.cuts Extent.zero)
    (hread : ∀ (state : ParseState) (position : Extent), cut.cuts position →
      (Tree.token (Lexer.next env.lang env.source state position)).Aligned cut.lies
        position.bytes) :
    (Law.paid env.lang cut).Closed env where
  tops _ := trivial
  faces _ _ := trivial
  origin := hstart
  read {a} ha state := by
    have haligned := hread state a.position ha
    obtain ⟨hmissing, hkind⟩ := Lexer.next_spec hlang env.source state a.position
    generalize Lexer.next env.lang env.source state a.position = k at haligned hmissing hkind
    have hskipped : k.symbol ≠ Symbol.skipped := by
      rcases hkind with ⟨herror, -⟩ | ⟨htoken, -⟩
      · rw [herror]
        decide
      · exact (hlang.token_ne htoken).2
    refine ⟨.token {
      symbol := hskipped
      known := hkind.imp And.left And.left
      missing := fun h => absurd (hmissing.symm.trans h) (by simp)
      error := fun h => ?_
      found := fun _ => hmissing
      endOfText := fun h => ?_ }, haligned, hskipped, fun hnode => absurd rfl (hnode k)⟩
    · rcases hkind with ⟨-, hextra⟩ | ⟨htoken, -⟩
      · exact hextra
      · exact absurd h (hlang.token_ne htoken).1
    · rcases hkind with ⟨herror, -⟩ | ⟨-, hextra⟩
      · rw [herror] at h
        exact absurd h (by decide)
      · rw [hextra, h]
        rfl
  word {p t} h hkeyword := by
    obtain ⟨hlt, hne, hvisible⟩ := hlang.word
    obtain ⟨herror, hskipped⟩ := hlang.token_ne hlt
    cases t with
    | token k =>
      exact ⟨.token {
        symbol := hskipped
        known := .inr hlt
        missing := fun _ => hvisible
        error := fun h => absurd h herror
        found := fun h => absurd h herror
        endOfText := fun h => absurd h hne }, h.2.1, hskipped, fun hnode => absurd rfl (hnode _)⟩
    | branch b cs => simp [Tree.isKeyword] at hkeyword
  reuse {t a} hspare hbreak _ := by
    simp only [Parse.mustBreak, Bool.or_eq_false_iff] at hbreak
    obtain ⟨ht, haligned⟩ := hspare.1.unchanged hbreak.1.1.1.1
    refine ⟨ht, haligned, fun hskipped => ?_, fun _ => hspare.2⟩
    cases ht with
    | token root => exact root.symbol hskipped
    | branch root _ =>
      have hfragile := (root.skipped hskipped).2.1
      simp [Tree.isFragileLeft, hfragile] at hbreak
  shift ha h hleaf hmem := paid_shift hlang ha h hleaf hmem
  shiftExtra ha h hleaf hmem := paid_shiftExtra hlang ha h hleaf hmem
  shiftPart _ _ ha h hleaf hmem := ⟨paid_shiftPart hlang ha h hleaf hmem, id⟩
  reduce {a b children extras symbol count production token} ambiguous ha hchain hextras _ hmem := by
    have held := held_reduce hlang ambiguous ha hchain hmem (env.lang.nextState a.state symbol)
    refine ⟨paid_step ha held (reach_recovering hlang symbol),
      paid_row _ (held.consistent.cuts_stop ha held.aligned) (fun e he => ⟨hchain.consistent e (List.mem_append_right _ he),
        hchain.marked e (List.mem_append_right _ he), hextras e he⟩) ?_ id fun _ => rfl⟩
    simpa [Spot.reach, Parse.totalSize_settle, Tree.totalSize_ofChildren]
      using hchain.aligned_append.2
  mark ha := ⟨rfl, ha, fun _ => rfl, fun _ => rfl, by simp, rfl⟩
  missing {a token first looked} ha hpos hlt hleads hmoves hreduces := by
    obtain ⟨herror, hskipped⟩ := hlang.token_ne hlt
    have hvisible := hlang.missing _ _ _ hpos hlt hleads hmoves hreduces
    have hmissing : (Tree.missingToken token Extent.zero looked).Consistent env.lang := .token {
      symbol := hskipped
      known := .inr hlt
      missing := fun _ => hvisible
      error := fun h => absurd h herror
      found := fun h => absurd h herror
      endOfText := fun h => absurd hpos (by rw [show token = Symbol.endOfText from h]; decide) }
    have hextra : Parse.isExtraToken env.lang token = false := by
      rcases hlang.nextState_token a.state hlt with hstate | ⟨-, hstate⟩ | ⟨hfalse, -⟩
      · exact absurd hstate hleads
      · exact absurd hstate hmoves
      · exact hfalse
    exact paid_step ha (held_token hlang hmissing (Tree.aligned_token.mpr (cut.empty ha)) hlt
      hextra.symm) (reach_recovering hlang token)
  wrap ha _ hm hchain herror hsplit hextras := paid_wrap hlang ha hm hchain herror hsplit hextras
  skip hb hpart := by
    obtain ⟨hconsistent, haligned, hmarked⟩ := held_skippedOver hlang hb hpart
    exact paid_step hb (held_recovering hconsistent haligned hmarked) fun _ => rfl
  skipOver {a b t trees count} ha hb hchain hpart := by
    obtain ⟨hconsistent, haligned, hmarked⟩ := held_skippedOver hlang hb hpart
    have hall : ∀ c ∈ trees ++ [skippedOver env t], c.Consistent env.lang ∧ c.Marked env.lang := by
      intro c hc
      rcases List.mem_append.mp hc with hc | hc
      · exact ⟨hchain.consistent c hc, hchain.marked c hc⟩
      · rw [List.mem_singleton] at hc
        exact hc ▸ ⟨hconsistent, hmarked⟩
    refine paid_step ha (held_recovering (Tree.consistent_ofChildren (by decide)
      (fun c hc => (hall c hc).1) (by simp) fun _ h => absurd rfl h)
      (aligned_ofChildren (cut.empty ha) ?_)
      (Tree.marked_ofChildren hlang.tokens fun c hc => (hall c hc).2)) fun _ => rfl
    refine (Tree.alignedAll_append hchain.consistent).mpr ⟨hchain.aligned, ?_⟩
    rw [Tree.alignedAll_singleton, ← hchain.bytes]
    exact haligned
  accept hchain _ h hmem hroot := whole_accept hlang hstart hchain h hmem hroot
  giveUp hchain _ hpart hend hroot := whole_giveUp hlang hstart hchain hpart hend hroot
  divide {a b t extras count} h ha hchain hextras := by
    have ht := hchain.consistent t (List.mem_cons_self ..)
    have hmarked := hchain.marked t (List.mem_cons_self ..)
    have htotal := ht.totalSizes_children fun k hk =>
      absurd (show t.isLeaf = false from h) (by simp [hk, Tree.isLeaf, Tree.children])
    obtain ⟨hthis, hbehind⟩ := (ht.alignedAll_cons extras).mp hchain.aligned
    refine ⟨by rw [htotal], paid_divided hlang (fun e he => ?_) ha (fun c hc => ?_)
      ((Tree.alignedAll_append fun c hc => ht.of_mem hc).mpr ⟨hthis.children, ?_⟩)⟩
    · exact ⟨hchain.consistent e (List.mem_cons_of_mem _ he),
        hchain.marked e (List.mem_cons_of_mem _ he), hextras e he⟩
    · exact ⟨ht.of_mem hc, hmarked.of_mem hc⟩
    · rw [htotal]
      exact hbehind

end Law

end SyntaxKit
