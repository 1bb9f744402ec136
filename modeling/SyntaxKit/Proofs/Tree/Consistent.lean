import SyntaxKit.Proofs.Tree.Balance

/-!
# Consistent trees

A tree is consistent if the summaries of its branches say the truth about what is below them: the
sizes fit, and a branch outside text in error has a cost exactly if one of its children does.  Lists
of skipped text and tokens in error cost nothing where they stand, because the node in error around
them pays for them; a consistent tree has them nowhere else.

Nodes built by `Tree.ofChildren` are consistent, and balancing keeps a tree consistent.
-/

namespace SyntaxKit

/-! ## What it is to be consistent -/

/-- Text in error for which the node around it pays: lists of skipped text and tokens in error. -/
def Tree.Unpaid (t : Tree) : Prop :=
  t.symbol = Symbol.skipped ∨ t.symbol = Symbol.error ∧ t.errorCost = 0

/-- A token as the parser has them. -/
structure Token.Consistent (lang : Language) (k : Token) : Prop where
  symbol : k.symbol ≠ Symbol.skipped
  known : k.symbol = Symbol.error ∨ k.symbol < lang.tokenCount
  /-- What is missing is shown. -/
  missing : k.missing = true → lang.isVisible k.symbol = true
  error : k.symbol = Symbol.error → k.extra = false
  /-- Text in error is in the text. -/
  found : k.symbol = Symbol.error → k.missing = false
  endOfText : k.symbol = Symbol.endOfText → k.extra = true

/-- The label of a branch goes with its children. -/
structure Branch.Admits (b : Branch) (cs : List Tree) : Prop where
  symbol : b.symbol ≠ Symbol.endOfText
  skipped : b.symbol = Symbol.skipped → b.extra = false ∧ b.fragileLeft = true ∧ cs ≠ []
  paid : b.holdsErrors = false → ∀ c ∈ cs, ¬c.Unpaid

/-- The summary of a branch says the truth about its children. -/
structure Branch.Consistent (lang : Language) (b : Branch) (cs : List Tree) : Prop
    extends b.Admits cs where
  fits : b.Fits cs
  errors : b.holdsErrors = true → 0 < b.errorCost
  costs : b.holdsErrors = false → (0 < b.errorCost ↔ ∃ c ∈ cs, 0 < c.errorCost)
  list : 0 < b.repeatDepth → lang.visibility b.symbol = .auxiliary
  first : ∀ c rest, cs = c :: rest → b.firstSymbol = c.firstSymbol

/-- All tokens are as the parser has them and all summaries say the truth. -/
def Tree.Consistent (lang : Language) (t : Tree) : Prop :=
  t.Every (Token.Consistent lang) (Branch.Consistent lang)

namespace Branch

variable {lang : Language} {b b' : Branch} {cs : List Tree}

theorem holdsErrors_iff : b.holdsErrors = true ↔ b.symbol = Symbol.error ∨ b.symbol = Symbol.skipped := by
  simp [holdsErrors]

theorem holdsErrors_eq_false_iff :
    b.holdsErrors = false ↔ b.symbol ≠ Symbol.error ∧ b.symbol ≠ Symbol.skipped := by
  simp [holdsErrors]

theorem SameRoot.admits (h : SameRoot b b') (hb : b.Admits cs) : b'.Admits cs where
  symbol := by
    rw [h.symbol]
    exact hb.symbol
  skipped hskipped := by
    rw [h.symbol] at hskipped
    obtain ⟨hextra, hfragile, hcs⟩ := hb.skipped hskipped
    exact ⟨h.extra.trans hextra, h.fragileLeft hfragile, hcs⟩
  paid herrors := by
    rw [holdsErrors, h.symbol, ← holdsErrors] at herrors
    exact hb.paid herrors

theorem repeatDepth_summarize (lang : Language) (b : Branch) (cs : List Tree) :
    0 < (b.summarize lang cs).repeatDepth →
      lang.visibility (b.summarize lang cs).symbol = .auxiliary := by
  rw [symbol_summarize]
  have hgathered : (b.gathered lang cs).1.repeatDepth = 0 := by
    cases cs with
    | nil => rfl
    | cons first rest =>
      have hrest : ∀ (cs : List Tree) (acc : Branch × Nat),
          (addChildren lang acc cs).1.repeatDepth = acc.1.repeatDepth := by
        intro cs
        induction cs with
        | nil => exact fun acc => rfl
        | cons c cs ih =>
          intro acc
          rw [addChildren, ih]
          rfl
      rw [gathered, hrest]
      rfl
  intro hpos
  cases cs with
  | nil =>
    have : (b.summarize lang []).repeatDepth = 0 := hgathered
    omega
  | cons first rest =>
    obtain ⟨last, hlast⟩ : ∃ last, (first :: rest).getLast? = some last := by
      rw [List.getLast?_cons]
      exact ⟨_, rfl⟩
    have hsymbol := (sameRoot_gathered lang b (first :: rest)).symbol
    simp only [gathered] at hsymbol
    simp only [summarize, hlast] at hpos
    split at hpos
    · next h =>
      simp only [Bool.and_eq_true, decide_eq_true_eq] at h
      rw [← hsymbol]
      exact h.1.2
    · simp at hpos

theorem firstSymbol_summarize (lang : Language) (b : Branch) (c : Tree) (rest : List Tree) :
    (b.summarize lang (c :: rest)).firstSymbol = c.firstSymbol := by
  obtain ⟨last, hlast⟩ : ∃ last, (c :: rest).getLast? = some last := by
    rw [List.getLast?_cons]
    exact ⟨_, rfl⟩
  simp [summarize, hlast]

/-- A summary says the truth about the children it has been made for. -/
theorem Admits.consistent_summarize (hb : b.Admits cs)
    (hnil : cs = [] → b.padding = Extent.zero ∧ b.size = Extent.zero) :
    (b.summarize lang cs).Consistent lang cs where
  toAdmits := (sameRoot_summarize lang b cs).admits hb
  fits := fits_summarize lang hnil
  errors herrors := by
    rw [holdsErrors_summarize] at herrors
    exact errorCost_summarize_pos lang cs herrors
  costs herrors := by
    rw [holdsErrors_summarize] at herrors
    refine errorCost_summarize_pos_iff lang herrors fun c hc hskipped => ?_
    exact hb.paid herrors c hc (.inl hskipped)
  list := repeatDepth_summarize lang b cs
  first c rest h := by
    subst h
    exact firstSymbol_summarize lang b c rest

/-- What is said of a branch does not depend on the fields that a summary does not explain. -/
theorem Consistent.congr (h : b.Consistent lang cs) (hsymbol : b'.symbol = b.symbol)
    (hpadding : b'.padding = b.padding) (hsize : b'.size = b.size)
    (hcost : b'.errorCost = b.errorCost) (hdepth : b'.repeatDepth = b.repeatDepth)
    (hfirst : b'.firstSymbol = b.firstSymbol)
    (hfragile : b.fragileLeft = true → b'.fragileLeft = true)
    (hextra : b.symbol = Symbol.skipped → b'.extra = b.extra) : b'.Consistent lang cs where
  symbol := by
    rw [hsymbol]
    exact h.symbol
  skipped hskipped := by
    rw [hsymbol] at hskipped
    obtain ⟨hb, hleft, hcs⟩ := h.skipped hskipped
    exact ⟨(hextra hskipped).trans hb, hfragile hleft, hcs⟩
  paid herrors := by
    rw [holdsErrors, hsymbol, ← holdsErrors] at herrors
    exact h.paid herrors
  fits := by
    have hfits := h.fits
    cases cs with
    | nil => exact ⟨hpadding.trans hfits.1, hsize.trans hfits.2⟩
    | cons c cs => exact ⟨hpadding.trans hfits.1, hsize.trans hfits.2⟩
  errors herrors := by
    rw [holdsErrors, hsymbol, ← holdsErrors] at herrors
    rw [hcost]
    exact h.errors herrors
  costs herrors := by
    rw [holdsErrors, hsymbol, ← holdsErrors] at herrors
    rw [hcost]
    exact h.costs herrors
  list hdepth' := by
    rw [hdepth] at hdepth'
    rw [hsymbol]
    exact h.list hdepth'
  first c rest hcs := by
    rw [hfirst]
    exact h.first c rest hcs

end Branch

namespace Tree

variable {lang : Language}

theorem Consistent.root {b : Branch} {cs : List Tree} (h : (branch b cs).Consistent lang) :
    b.Consistent lang cs := Every.of_branch h

theorem Consistent.child {b : Branch} {cs : List Tree} (h : (branch b cs).Consistent lang)
    {c : Tree} (hc : c ∈ cs) : c.Consistent lang := Every.of_mem h hc

/-- A new node over consistent trees is consistent, if only nodes in error hold unpaid text. -/
theorem consistent_ofChildren {generation : Nat} {symbol : Symbol} {production : Nat}
    {cs : List Tree} (hsymbol : symbol ≠ Symbol.endOfText) (hcs : ∀ c ∈ cs, c.Consistent lang)
    (hne : symbol = Symbol.skipped → cs ≠ [])
    (hpaid : symbol ≠ Symbol.error → symbol ≠ Symbol.skipped → ∀ c ∈ cs, ¬c.Unpaid) :
    (ofChildren lang generation symbol production cs).Consistent lang := by
  have hadmits : (freshBranch generation symbol production).Admits cs := {
    symbol := hsymbol
    skipped := fun hskipped => by
      have hfragile : (symbol == Symbol.skipped) = true := beq_iff_eq.mpr hskipped
      simp [freshBranch, hfragile, hne hskipped]
    paid := fun herrors => by
      obtain ⟨herror, hskipped⟩ := Branch.holdsErrors_eq_false_iff.mp herrors
      exact hpaid herror hskipped }
  rw [ofChildren_eq]
  exact .branch (hadmits.consistent_summarize fun _ => ⟨rfl, rfl⟩) hcs

/-- The children of what costs nothing cost nothing, and it is no text in error. -/
theorem Consistent.costless {b : Branch} {cs : List Tree} (h : (branch b cs).Consistent lang)
    (hcost : b.errorCost = 0) : b.holdsErrors = false ∧ ∀ c ∈ cs, c.errorCost = 0 := by
  have herrors : b.holdsErrors = false := by
    by_contra htrue
    have hpos := h.root.errors (by simpa using htrue)
    omega
  refine ⟨herrors, fun c hc => ?_⟩
  by_contra hpos
  have hcosts := (h.root.costs herrors).mpr ⟨c, hc, Nat.pos_of_ne_zero hpos⟩
  omega

theorem errorCost_ofChildren_pos {generation : Nat} {symbol : Symbol} {production : Nat}
    (cs : List Tree) (h : symbol = Symbol.error ∨ symbol = Symbol.skipped) :
    0 < (ofChildren lang generation symbol production cs).errorCost :=
  Branch.errorCost_summarize_pos lang cs (Branch.holdsErrors_iff.mpr h)

theorem Consistent.setExtra {t : Tree} {extra : Bool} (h : t.Consistent lang)
    (herror : t.symbol = Symbol.error → t.children = [] → extra = false)
    (hend : t.symbol = Symbol.endOfText → extra = true)
    (hskipped : t.symbol ≠ Symbol.skipped) :
    (t.setExtra extra).Consistent lang := by
  cases h with
  | token root =>
    exact .token { root with
      error := fun h => herror h rfl
      endOfText := hend }
  | branch root children =>
    exact .branch (root.congr rfl rfl rfl rfl rfl rfl id fun h => absurd h hskipped) children

/-- Where reading a consistent tree begins. -/
theorem Consistent.head?_leafSymbols {t : Tree} (h : t.Consistent lang) :
    t.leafSymbols.head? = some t.firstSymbol := by
  induction h with
  | token root => simp [leafSymbols, firstSymbol]
  | @branch b cs root children ih =>
    cases cs with
    | nil => simp [leafSymbols, firstSymbol]
    | cons c rest =>
      have hc := ih c (List.mem_cons_self ..)
      rw [leafSymbols] at hc
      rw [leafSymbols, flatten_branch_cons, List.head?_append, hc, firstSymbol,
        root.first c rest rfl]
      rfl

/-! ## Costs -/

/-- A token is missing somewhere in the tree or some branch holds text in error, with no node in
error above. -/
inductive Costly : Tree → Prop
  | missing {k : Token} (h : k.missing = true) : Costly (token k)
  | error {b : Branch} {cs : List Tree} (h : b.holdsErrors = true) : Costly (branch b cs)
  | child {b : Branch} {cs : List Tree} {c : Tree} (hc : c ∈ cs) (h : Costly c) :
      Costly (branch b cs)

theorem costly_branch_iff {b : Branch} {cs : List Tree} :
    (branch b cs).Costly ↔ b.holdsErrors = true ∨ ∃ c ∈ cs, c.Costly := by
  constructor
  · intro h
    cases h with
    | error h => exact .inl h
    | child hc h => exact .inr ⟨_, hc, h⟩
  · rintro (h | ⟨c, hc, h⟩)
    · exact .error h
    · exact .child hc h

/-- The cost of a consistent tree is positive exactly if there is something to pay for. -/
theorem Consistent.errorCost_pos_iff {t : Tree} (h : t.Consistent lang) :
    0 < t.errorCost ↔ t.Costly := by
  induction h with
  | @token k root =>
    have hcost : (Tree.token k).errorCost = if k.missing then 610 else 0 := rfl
    rw [hcost]
    constructor
    · intro h
      split at h
      · next hmissing => exact .missing hmissing
      · omega
    · intro h
      cases h with
      | missing hmissing => simp [hmissing]
  | @branch b cs root children ih =>
    rw [costly_branch_iff]
    by_cases herrors : b.holdsErrors = true
    · exact ⟨fun _ => .inl herrors, fun _ => root.errors herrors⟩
    · rw [Bool.not_eq_true] at herrors
      refine (root.costs herrors).trans ?_
      constructor
      · rintro ⟨c, hc, hpos⟩
        exact .inr ⟨c, hc, (ih c hc).mp hpos⟩
      · rintro (h | ⟨c, hc, hcostly⟩)
        · simp [herrors] at h
        · exact ⟨c, hc, (ih c hc).mpr hcostly⟩

theorem Consistent.unpaid_iff {t : Tree} (h : t.Consistent lang) :
    t.Unpaid ↔ t.symbol = Symbol.skipped ∨ t.symbol = Symbol.error ∧ ¬t.Costly := by
  rw [Unpaid, ← h.errorCost_pos_iff, Nat.not_lt, Nat.le_zero]

theorem costly_resummarize (t : Tree) : (t.resummarize lang).Costly ↔ t.Costly := by
  cases t with
  | token k => rfl
  | branch b cs =>
    rw [resummarize, costly_branch_iff, costly_branch_iff, Branch.holdsErrors_summarize]

theorem costly_resummarizeLast (t : Tree) : (resummarizeLast lang t).Costly ↔ t.Costly := by
  rcases resummarizeLast_cases lang t with hsame | ⟨b, front, last, rfl, hlast⟩
  · rw [hsame]
  · rw [hlast, costly_resummarize, costly_branch_iff, costly_branch_iff]
    simp [or_and_right, exists_or, costly_resummarize]

/-! ## Sizes are those of the leaves -/

/-- The extent of several leaves together. -/
def spanTotal (spans : List (Extent × Extent)) : Extent :=
  spans.foldr (fun s e => s.1 + s.2 + e) Extent.zero

theorem spanTotal_append (s s' : List (Extent × Extent)) :
    spanTotal (s ++ s') = spanTotal s + spanTotal s' := by
  induction s with
  | nil => simp [spanTotal]
  | cons x s ih =>
    have hcons : ∀ l, spanTotal (x :: l) = x.1 + x.2 + spanTotal l := fun _ => rfl
    rw [List.cons_append, hcons, hcons, ih, Extent.add_assoc (x.1 + x.2)]

/-- The padding of a consistent tree is that of its first leaf, and its size covers the others. -/
theorem Consistent.spans_eq {t : Tree} (h : t.Consistent lang) :
    ∃ size rest, t.spans = (t.padding, size) :: rest ∧ t.size = size + spanTotal rest := by
  induction h with
  | @token k root => exact ⟨k.size, [], flatten_token _ _ k, (Extent.add_zero _).symm⟩
  | @branch b cs root children ih =>
    cases cs with
    | nil =>
      refine ⟨Extent.zero, [], ?_, ?_⟩
      · show [(Extent.zero, Extent.zero)] = [(b.padding, Extent.zero)]
        rw [root.fits.1]
      · show b.size = _
        rw [root.fits.2]
        rfl
    | cons c rest =>
      obtain ⟨size, others, hspans, hsize⟩ := ih c (List.mem_cons_self ..)
      have htotals : ∀ ts : List Tree, (∀ t ∈ ts, ∃ size rest,
            t.spans = (t.padding, size) :: rest ∧ t.size = size + spanTotal rest) →
          spanTotal (flattenAll (fun k => [(k.padding, k.size)])
            (fun _ => [(Extent.zero, Extent.zero)]) ts) = totalSizes ts := by
        intro ts hts
        induction ts with
        | nil => rfl
        | cons t ts ihts =>
          obtain ⟨size, others, hspans, hsize⟩ := hts t (List.mem_cons_self ..)
          have htail := ihts fun t ht => hts t (List.mem_cons_of_mem _ ht)
          rw [flattenAll_cons, spanTotal_append, htail, totalSizes_cons,
            show t.flatten _ _ = _ from hspans, totalSize, hsize]
          simp [spanTotal, Extent.add_assoc]
      have hrest := htotals rest fun t ht => ih t (List.mem_cons_of_mem _ ht)
      refine ⟨size, others ++ flattenAll (fun k => [(k.padding, k.size)])
        (fun _ => [(Extent.zero, Extent.zero)]) rest, ?_, ?_⟩
      · show (branch b (c :: rest)).flatten _ _ = (b.padding, _) :: _
        rw [flatten_branch_cons, show c.flatten _ _ = _ from hspans, root.fits.1]
        rfl
      · show b.size = _
        rw [root.fits.2, spanTotal_append, hrest, hsize, Extent.add_assoc]

/-! ## Balancing keeps trees consistent -/

/-- What balancing leaves as it was. -/
structure Alike (t u : Tree) : Prop where
  symbol : u.symbol = t.symbol
  extra : u.isExtra = t.isExtra
  spans : u.spans = t.spans
  leafSymbols : u.leafSymbols = t.leafSymbols
  costly : u.Costly ↔ t.Costly

theorem Alike.refl (t : Tree) : Alike t t := ⟨rfl, rfl, rfl, rfl, Iff.rfl⟩

theorem Alike.trans {t u v : Tree} (h : Alike t u) (h' : Alike u v) : Alike t v where
  symbol := h'.symbol.trans h.symbol
  extra := h'.extra.trans h.extra
  spans := h'.spans.trans h.spans
  leafSymbols := h'.leafSymbols.trans h.leafSymbols
  costly := h'.costly.trans h.costly

theorem Alike.sizes {t u : Tree} (h : Alike t u) (ht : t.Consistent lang) (hu : u.Consistent lang) :
    u.padding = t.padding ∧ u.size = t.size := by
  obtain ⟨size, rest, hspans, hsize⟩ := ht.spans_eq
  obtain ⟨size', rest', hspans', hsize'⟩ := hu.spans_eq
  rw [h.spans, hspans] at hspans'
  simp only [List.cons.injEq, Prod.mk.injEq] at hspans'
  obtain ⟨⟨hpadding, rfl⟩, rfl⟩ := hspans'
  exact ⟨hpadding.symm, hsize'.trans hsize.symm⟩

theorem Alike.unpaid_iff {t u : Tree} (h : Alike t u) (ht : t.Consistent lang)
    (hu : u.Consistent lang) : u.Unpaid ↔ t.Unpaid := by
  rw [ht.unpaid_iff, hu.unpaid_iff, h.symbol, h.costly]

theorem Alike.errorCost_pos_iff {t u : Tree} (h : Alike t u) (ht : t.Consistent lang)
    (hu : u.Consistent lang) : 0 < u.errorCost ↔ 0 < t.errorCost := by
  rw [ht.errorCost_pos_iff, hu.errorCost_pos_iff, h.costly]

theorem Alike.firstSymbol {t u : Tree} (h : Alike t u) (ht : t.Consistent lang)
    (hu : u.Consistent lang) : u.firstSymbol = t.firstSymbol := by
  have ht' := ht.head?_leafSymbols
  have hu' := hu.head?_leafSymbols
  rw [h.leafSymbols, ht'] at hu'
  exact (Option.some.inj hu').symm

theorem alike_of_rotated {t u : Tree} (h : Rotated lang t u) : Alike t u := by
  induction h with
  | stay t => exact .refl t
  | @turn b c g others cOthers gs last u hchild hgrandchild hbelow ih =>
    have hturn : Rotated lang (branch b (branch c (branch g (gs ++ [last]) :: cOthers) :: others)) _ :=
      .turn hchild hgrandchild hbelow
    refine {
      symbol := Branch.symbol_summarize lang b _
      extra := Branch.extra_summarize lang b _
      spans := flatten_of_rotated lang _ _ hturn
      leafSymbols := flatten_of_rotated lang _ _ hturn
      costly := ?_ }
    rw [costly_resummarize, costly_branch_iff, costly_branch_iff]
    have hc : c.holdsErrors = b.holdsErrors := by simp [Branch.holdsErrors, hchild]
    have hg : g.holdsErrors = b.holdsErrors := by simp [Branch.holdsErrors, hgrandchild]
    by_cases herrors : b.holdsErrors = true
    · simp [herrors]
    · have hu : (resummarizeLast lang u).Costly
          ↔ (∃ x ∈ gs, x.Costly) ∨ last.Costly ∨ ∃ x ∈ cOthers, x.Costly := by
        rw [costly_resummarizeLast, ih.costly, costly_branch_iff, hg]
        simp [herrors, or_and_right, exists_or, costly_branch_iff, hc]
      simp [herrors, costly_branch_iff, hc, hg, hu, or_and_right, exists_or, or_assoc]

/-- A branch whose children are consistent but whose own summary is out of date. -/
def Ready (lang : Language) (t : Tree) : Prop :=
  ∃ b cs, t = branch b cs ∧ cs ≠ [] ∧ b.Admits cs ∧ ∀ c ∈ cs, c.Consistent lang

/-- A branch with its last child on which only the summaries of the two may be out of date. -/
def Slack (lang : Language) (t : Tree) : Prop :=
  ∃ b front last, t = branch b (front ++ [last]) ∧ b.Admits (front ++ [last])
    ∧ (∀ c ∈ front, c.Consistent lang) ∧ (last.Consistent lang ∨ last.Ready lang)

theorem Ready.resummarize {t : Tree} (h : t.Ready lang) : (t.resummarize lang).Consistent lang := by
  obtain ⟨b, cs, rfl, hne, hb, hcs⟩ := h
  exact .branch (hb.consistent_summarize fun h => absurd h hne) hcs

theorem Consistent.resummarize {t : Tree} (h : t.Consistent lang) :
    (t.resummarize lang).Consistent lang := by
  cases h with
  | token root => exact .token root
  | @branch b cs root children =>
    refine .branch (root.toAdmits.consistent_summarize fun hnil => ?_) children
    have hfits := root.fits
    rw [hnil] at hfits
    exact hfits

theorem Consistent.slack {b : Branch} {cs : List Tree} (h : (branch b cs).Consistent lang)
    (hne : cs ≠ []) : (branch b cs).Slack lang := by
  obtain ⟨front, last, rfl⟩ : ∃ front last, cs = front ++ [last] :=
    ⟨_, _, (List.dropLast_concat_getLast hne).symm⟩
  exact ⟨b, front, last, rfl, h.root.toAdmits, fun c hc => h.child (by simp [hc]),
    .inl (h.child (by simp))⟩

theorem not_unpaid_resummarize {t : Tree} (h : ¬t.Unpaid) : ¬(t.resummarize lang).Unpaid := by
  cases t with
  | token k => exact h
  | branch b cs =>
    rintro (hskipped | ⟨herror, hcost⟩)
    · rw [symbol_resummarize] at hskipped
      exact h (.inl hskipped)
    · rw [symbol_resummarize] at herror
      have hpos : 0 < ((branch b cs).resummarize lang).errorCost :=
        Branch.errorCost_summarize_pos lang cs (Branch.holdsErrors_iff.mpr (.inl herror))
      omega

theorem Slack.resummarizeLast {t : Tree} (h : t.Slack lang) :
    (Tree.resummarizeLast lang t).Consistent lang := by
  obtain ⟨b, front, last, rfl, hb, hfront, hlast⟩ := h
  have hlast' : (last.resummarize lang).Consistent lang := by
    rcases hlast with hlast | hlast
    · exact hlast.resummarize
    · exact hlast.resummarize
  have hadmits : b.Admits (front ++ [last.resummarize lang]) := {
    symbol := hb.symbol
    skipped := fun h => ⟨(hb.skipped h).1, (hb.skipped h).2.1, by simp⟩
    paid := fun herrors c hc => by
      rcases List.mem_append.mp hc with hc | hc
      · exact hb.paid herrors c (by simp [hc])
      · rw [List.mem_singleton] at hc
        subst hc
        exact not_unpaid_resummarize (hb.paid herrors last (by simp)) }
  have hall : ∀ c ∈ front ++ [last.resummarize lang], c.Consistent lang := by
    intro c hc
    rcases List.mem_append.mp hc with hc | hc
    · exact hfront c hc
    · rw [List.mem_singleton] at hc
      exact hc ▸ hlast'
  have hready : (branch b (front ++ [last.resummarize lang])).Ready lang :=
    ⟨b, _, rfl, by simp, hadmits, hall⟩
  simpa [Tree.resummarizeLast] using hready.resummarize

/-- What a turn needs of the node at the top: its children but the first are consistent up to the
last, and the first has consistent children and a label that goes with them. -/
theorem Slack.first {b : Branch} {x : Tree} {others : List Tree}
    (h : (branch b (x :: others)).Slack lang) :
    b.Admits (x :: others) ∧ (x.Consistent lang ∨ x.Ready lang)
      ∧ ∀ front last, others = front ++ [last] →
        (∀ c ∈ front, c.Consistent lang) ∧ (last.Consistent lang ∨ last.Ready lang) := by
  obtain ⟨b', front, last, heq, hb, hfront, hlast⟩ := h
  rw [branch.injEq] at heq
  obtain ⟨rfl, hcs⟩ := heq
  refine ⟨hcs ▸ hb, ?_, ?_⟩
  · cases front with
    | nil =>
      simp only [List.nil_append, List.cons.injEq] at hcs
      exact hcs.1 ▸ hlast
    | cons y front =>
      simp only [List.cons_append, List.cons.injEq] at hcs
      exact hcs.1 ▸ .inl (hfront y (List.mem_cons_self ..))
  · rintro front' last' rfl
    rw [← List.cons_append] at hcs
    obtain ⟨rfl, hlast'⟩ := List.append_inj' hcs rfl
    simp only [List.cons.injEq, and_true] at hlast'
    exact ⟨fun c hc => hfront c (List.mem_cons_of_mem _ hc), hlast' ▸ hlast⟩

theorem consistent_or_ready {b : Branch} {cs : List Tree}
    (h : (branch b cs).Consistent lang ∨ (branch b cs).Ready lang) :
    b.Admits cs ∧ ∀ c ∈ cs, c.Consistent lang := by
  rcases h with h | ⟨b', cs', heq, -, hb, hcs⟩
  · exact ⟨h.root.toAdmits, fun c hc => h.child hc⟩
  · rw [branch.injEq] at heq
    obtain ⟨rfl, rfl⟩ := heq
    exact ⟨hb, hcs⟩

theorem not_unpaid_of_symbol {b b' : Branch} {cs : List Tree} (h : b'.symbol = b.symbol)
    (herrors : b.holdsErrors = false) : ¬(branch b' cs).Unpaid := by
  obtain ⟨herror, hskipped⟩ := Branch.holdsErrors_eq_false_iff.mp herrors
  rintro (h' | ⟨h', -⟩)
  · exact hskipped (h ▸ h')
  · exact herror (h ▸ h')

/-- Turning keeps a tree consistent, up to the summaries that are computed again later. -/
theorem slack_of_rotated {t u : Tree} (h : Rotated lang t u) :
    (t.Slack lang → u.Slack lang) ∧ (t.Consistent lang → u.Consistent lang) := by
  induction h with
  | stay t => exact ⟨id, id⟩
  | @turn b c g others cOthers gs last u hchild hgrandchild hbelow ih =>
    have halike := alike_of_rotated hbelow
    -- the node that goes up, with the child below it at its right end
    have hup : (branch b (branch c (branch g (gs ++ [last]) :: cOthers) :: others)).Slack lang →
        (branch g (gs ++ [branch c (last :: cOthers)])).Slack lang := by
      intro hslack
      obtain ⟨hb, hx, -⟩ := hslack.first
      obtain ⟨hc, hcs⟩ := consistent_or_ready hx
      have hgc := hcs _ (List.mem_cons_self ..)
      have hg := hgc.root.toAdmits
      have hsame : c.symbol = g.symbol := hchild.trans hgrandchild.symm
      have hsym : c.holdsErrors = g.holdsErrors := by simp [Branch.holdsErrors, hsame]
      refine ⟨g, gs, _, rfl, ⟨hg.symbol, ?_, ?_⟩, fun x hx => hgc.child (by simp [hx]), .inr ?_⟩
      · exact fun h => ⟨(hg.skipped h).1, (hg.skipped h).2.1, by simp⟩
      · intro herrors x hx
        rcases List.mem_append.mp hx with hx | hx
        · exact hg.paid herrors x (by simp [hx])
        · rw [List.mem_singleton] at hx
          exact hx ▸ not_unpaid_of_symbol hsame herrors
      · refine ⟨c, _, rfl, by simp, ⟨hc.symbol, ?_, ?_⟩, ?_⟩
        · exact fun h => ⟨(hc.skipped h).1, (hc.skipped h).2.1, by simp⟩
        · intro herrors x hx
          rcases List.mem_cons.mp hx with rfl | hx
          · exact hg.paid (hsym ▸ herrors) x (by simp)
          · exact hc.paid herrors x (List.mem_cons_of_mem _ hx)
        · intro x hx
          rcases List.mem_cons.mp hx with rfl | hx
          · exact hgc.child (by simp)
          · exact hcs x (List.mem_cons_of_mem _ hx)
    -- the root, put on top again
    have hroot : b.Admits (branch c (branch g (gs ++ [last]) :: cOthers) :: others) →
        b.Admits (resummarizeLast lang u :: others) := by
      intro hb
      refine ⟨hb.symbol, fun h => ⟨(hb.skipped h).1, (hb.skipped h).2.1, by simp⟩, ?_⟩
      intro herrors x hx
      rcases List.mem_cons.mp hx with rfl | hx
      · have hu : (resummarizeLast lang u).symbol = b.symbol := by
          rw [symbol_resummarizeLast, halike.symbol]
          exact hgrandchild
        obtain ⟨herror, hskipped⟩ := Branch.holdsErrors_eq_false_iff.mp herrors
        rintro (h | ⟨h, -⟩)
        · exact hskipped (hu ▸ h)
        · exact herror (hu ▸ h)
      · exact hb.paid herrors x (List.mem_cons_of_mem _ hx)
    constructor
    · intro hslack
      have hu := (ih.1 (hup hslack)).resummarizeLast
      obtain ⟨hb, -, hothers⟩ := hslack.first
      have hadmits := hroot hb
      have hsame := Branch.sameRoot_summarize lang b (resummarizeLast lang u :: others)
      rcases List.eq_nil_or_concat others with rfl | ⟨front, last', hconcat⟩
      · exact ⟨_, [], _, rfl, hsame.admits hadmits, by simp, .inl hu⟩
      · rw [List.concat_eq_append] at hconcat
        subst hconcat
        obtain ⟨hfront, hlast⟩ := hothers front last' rfl
        refine ⟨_, resummarizeLast lang u :: front, last', rfl, ?_, ?_, hlast⟩
        · exact hsame.admits hadmits
        · intro x hx
          rcases List.mem_cons.mp hx with rfl | hx
          · exact hu
          · exact hfront x hx
    · intro hconsistent
      have hu := (ih.1 (hup (hconsistent.slack (by simp)))).resummarizeLast
      have hready : (branch b (resummarizeLast lang u :: others)).Ready lang := by
        refine ⟨b, _, rfl, by simp, hroot hconsistent.root.toAdmits, fun x hx => ?_⟩
        rcases List.mem_cons.mp hx with rfl | hx
        · exact hu
        · exact hconsistent.child (List.mem_cons_of_mem _ hx)
      exact hready.resummarize

theorem Consistent.balanceRoot {t : Tree} (h : t.Consistent lang) (generation : Nat) :
    (Tree.balanceRoot lang generation t).Consistent lang
      ∧ Alike t (Tree.balanceRoot lang generation t) := by
  refine balanceRoot_induction lang (R := fun t u => u.Consistent lang ∧ Alike t u) generation t
    ⟨h, .refl t⟩ ?_
  rintro - u v ⟨hu, halike⟩ huv
  exact ⟨(slack_of_rotated huv).2 hu, halike.trans (alike_of_rotated huv)⟩

end Tree

/-- A branch stays consistent when its children are replaced by others like them. -/
theorem Branch.Consistent.map {lang : Language} {b : Branch} {cs : List Tree} {f : Tree → Tree}
    (h : b.Consistent lang cs) (hcs : ∀ c ∈ cs, c.Consistent lang)
    (hf : ∀ c ∈ cs, (f c).Consistent lang ∧ c.Alike (f c)) : b.Consistent lang (cs.map f) where
  symbol := h.symbol
  skipped hskipped := by simpa using h.skipped hskipped
  paid herrors c hc := by
    obtain ⟨d, hd, rfl⟩ := List.mem_map.mp hc
    obtain ⟨hcons, halike⟩ := hf d hd
    rw [halike.unpaid_iff (hcs d hd) hcons]
    exact h.paid herrors d hd
  fits := by
    have htotal : ∀ ts : List Tree, (∀ t ∈ ts, t ∈ cs) →
        Tree.totalSizes (ts.map f) = Tree.totalSizes ts := by
      intro ts hts
      induction ts with
      | nil => rfl
      | cons t ts ih =>
        have ht := hts t (List.mem_cons_self ..)
        obtain ⟨hcons, halike⟩ := hf t ht
        obtain ⟨hpadding, hsize⟩ := halike.sizes (hcs t ht) hcons
        rw [List.map_cons, Tree.totalSizes_cons, Tree.totalSizes_cons,
          ih fun t ht => hts t (List.mem_cons_of_mem _ ht), Tree.totalSize, hpadding, hsize]
        rfl
    have hfits := h.fits
    cases cs with
    | nil => exact hfits
    | cons c cs =>
      obtain ⟨hcons, halike⟩ := hf c (List.mem_cons_self ..)
      obtain ⟨hpadding, hsize⟩ := halike.sizes (hcs c (List.mem_cons_self ..)) hcons
      rw [List.map_cons, Fits, hpadding, hsize,
        htotal cs fun t ht => List.mem_cons_of_mem _ ht]
      exact hfits
  errors := h.errors
  costs herrors := by
    refine (h.costs herrors).trans ?_
    simp only [List.mem_map, exists_exists_and_eq_and]
    constructor
    · rintro ⟨c, hc, hpos⟩
      exact ⟨c, hc, ((hf c hc).2.errorCost_pos_iff (hcs c hc) (hf c hc).1).mpr hpos⟩
    · rintro ⟨c, hc, hpos⟩
      exact ⟨c, hc, ((hf c hc).2.errorCost_pos_iff (hcs c hc) (hf c hc).1).mp hpos⟩
  list := h.list
  first c' rest hcons := by
    cases cs with
    | nil => simp at hcons
    | cons c cs =>
      simp only [List.map_cons, List.cons.injEq] at hcons
      obtain ⟨rfl, -⟩ := hcons
      obtain ⟨hcons, halike⟩ := hf c (List.mem_cons_self ..)
      rw [halike.firstSymbol (hcs c (List.mem_cons_self ..)) hcons]
      exact h.first c cs rfl

namespace Tree

/-- The same labels, leaves and costs below a root that has not changed. -/
theorem alike_map {b : Branch} {cs : List Tree} {f : Tree → Tree}
    (hf : ∀ c ∈ cs, c.Alike (f c)) : Alike (branch b cs) (branch b (cs.map f)) where
  symbol := rfl
  extra := rfl
  spans := flatten_branch_congr _ _ rfl (by simp) (flattenAll_map _ _ fun c hc => (hf c hc).spans)
  leafSymbols :=
    flatten_branch_congr _ _ rfl (by simp) (flattenAll_map _ _ fun c hc => (hf c hc).leafSymbols)
  costly := by
    rw [costly_branch_iff, costly_branch_iff]
    simp only [List.mem_map, exists_exists_and_eq_and]
    exact or_congr Iff.rfl (exists_congr fun c => and_congr_right fun hc => (hf c hc).costly)

/-- **Balancing keeps a tree consistent**, and it keeps its label, its leaves, and whether there is
an error in it. -/
theorem Consistent.balance {lang : Language} {t : Tree} (h : t.Consistent lang) (generation : Nat) :
    (t.balance lang generation).Consistent lang ∧ Alike t (t.balance lang generation) := by
  induction hn : t.weight using Nat.strongRecOn generalizing t with
  | _ n ih =>
    obtain ⟨hroot, halike⟩ := h.balanceRoot generation
    rw [balance_eq]
    cases hu : Tree.balanceRoot lang generation t with
    | token k =>
      rw [hu] at hroot halike
      exact ⟨hroot, halike⟩
    | branch b cs =>
      rw [hu] at hroot halike
      have hcs : ∀ c ∈ cs, (balanceChild lang generation c).Consistent lang
          ∧ Alike c (balanceChild lang generation c) := by
        intro c hc
        rcases balanceChild_eq_or lang generation c with h | h
        · rw [h]
          exact ⟨hroot.child hc, .refl c⟩
        · have hlt : c.weight < n := by
            rw [← hn, ← weight_balanceRoot lang generation t, hu, weight_branch]
            exact Nat.lt_succ_of_le (weight_le_of_mem hc)
          rw [h]
          exact ih _ hlt (hroot.child hc) rfl
      refine ⟨.branch (hroot.root.map (fun c hc => hroot.child hc) hcs) ?_, ?_⟩
      · intro c' hc'
        obtain ⟨c, hc, rfl⟩ := List.mem_map.mp hc'
        exact (hcs c hc).1
      · exact halike.trans (alike_map fun c hc => (hcs c hc).2)

end Tree

end SyntaxKit
