import SyntaxKit.Proofs.Language.Closing
import SyntaxKit.Proofs.Lexer.Heard

/-!
# Tables that resolve rivals

Two tokens are rivals if both may be read at one place and one of them yields to the other one.  What a
parser is given there should be the one that it can use: a state that has something to do with the token
that is preferred must not be given the other one, neither by reading it afresh nor by using it again,
and a reduction on the one that yields must not lead to a state that could have used the other one.
`Language.Resolves` says so of some rivals, and `Language.isResolving` decides it.
-/

namespace SyntaxKit

namespace Language

/-- A reading is offered the one of two rivals that it can use; of each pair the first one yields. -/
structure Resolves (lang : Language) (d : Accord) (rivals : List (Symbol × Symbol)) : Prop where
  yields : ∀ x ∈ rivals, lang.Yields d x.1 x.2
  /-- What others are read instead of is read as in recovery. -/
  reads : ∀ x ∈ rivals, (x.2, x.1) ∈ d.instead → ∀ state, lang.hasActions state x.2 = true →
    lang.lexState state = lang.lexState ParseState.recovering
  reusable : ∀ x ∈ rivals, ∀ state e, lang.entry? state x.1 = some e → e.reusable = true →
    lang.hasActions state x.2 = false
  /-- A keyword that a state has actions on is not passed over in it. -/
  acts : ∀ x ∈ rivals, ∀ state, lang.hasActions state x.2 = true →
    ∃ a ∈ lang.actions state x.2, ∀ next, a ≠ .shift next true
  reduce : ∀ x ∈ rivals, ∀ {a b ss symbol production}, lang.Path a ss b →
    .reduce symbol ss.length production ∈ lang.actions b x.1 → lang.hasActions b x.2 = false →
    lang.hasActions (lang.nextState a symbol) x.2 = false

/-! ## Deciding it -/

variable (lang : Language) (d : Accord) (rivals : List (Symbol × Symbol))

/-- Whether the first of two tokens yields to the second one. -/
def yieldsTo (x : Symbol × Symbol) : Bool :=
  d.instead.contains (x.2, x.1)
    || x.1 == lang.wordToken && (lang.keywords.map Prod.snd).contains x.2

/-- Whether an action does something on a token that a list is not re-entered with. -/
def goesOn : Action → Bool
  | .shift _ repetition => !repetition
  | .shiftExtra | .reduce .. | .accept | .recover => true

/-- The tokens of some entries. -/
def tokensOf (es : List Entry) : Nat := es.foldr (fun e tokens => e.tokens ||| tokens) 0

/-- Whether a row has something to do with a token. -/
def rowActsOn (row : StateRow) (token : Symbol) : Bool := isIn token (tokensOf row.entries)

/-- The states that have something to do with a token. -/
def actingOn (token : Symbol) : Nat :=
  statesWhere (fun row => rowActsOn row token) lang.parseStates.toList.zipIdx

/-- Whether a row that has something to do with a token is not given what yields to it. -/
def rowOffers (row : StateRow) (x : Symbol × Symbol) : Bool :=
  !rowActsOn row x.2 || match row.entries.find? (·.tokens.testBit x.2) with
  | none => true
  | some e => e.actions.any goesOn
    && (!d.instead.contains (x.2, x.1) || row.lexState == lang.lexState ParseState.recovering)
    && match row.entries.find? (·.tokens.testBit x.1) with
      | none => true
      | some e => !e.reusable

/-- The states that go over a node to one that has nothing to do with a token. -/
def spared (symbol token : Symbol) : Nat :=
  lang.leading symbol fun q => q != ParseState.recovering && !isIn q (lang.actingOn token)

/-- Whether an action of a state on some tokens does not lead to where a rival of one of these could
have been used, if it cannot be used in the state. -/
def actionKeepsTo (row : StateRow) (state : ParseState) (tokens : Nat) : Action → Bool
  | .reduce symbol count _ => lang.tokenCount.ble symbol && symbol.blt Symbol.skipped
      && rivals.all fun x => !isIn x.1 tokens || rowActsOn row x.2
        || isWithin (lang.basesOf count state) (lang.spared symbol x.2)
  | .shift .. | .shiftExtra | .accept | .recover => true

/-- Decides whether rivals are resolved. -/
def isResolving : Bool :=
  (rivals.all fun x => x.2.blt lang.tokenCount && lang.yieldsTo d x)
    && lang.parseStates.toList.zipIdx.all fun x => seen (fun state =>
      rivals.all (lang.rowOffers d x.1)
        && x.1.entries.all fun e => e.actions.all (lang.actionKeepsTo rivals x.1 state e.tokens)) x.2

variable {lang d rivals}

theorem testBit_tokensOf {es : List Entry} {token : Symbol} :
    (tokensOf es).testBit token = es.any (·.tokens.testBit token) := by
  induction es with
  | nil => simp [tokensOf]
  | cons e es ih => rw [tokensOf, List.foldr_cons, ← tokensOf, Nat.testBit_or, ih, List.any_cons]

theorem hasActions_eq {state : ParseState} {token : Symbol} (h : token < lang.tokenCount) :
    lang.hasActions state token = rowActsOn (lang.row state) token := by
  rw [hasActions, entry?, if_pos h, rowActsOn, isIn_eq, testBit_tokensOf, Bool.eq_iff_iff,
    List.find?_isSome, List.any_eq_true]

/-- A state that is not among those that have something to do with a token has none. -/
theorem rowActsOn_of_testBit {state : ParseState} {token : Symbol}
    (h : (lang.actingOn token).testBit state = false) : rowActsOn (lang.row state) token = false := by
  by_contra hacts
  rw [Bool.not_eq_false] at hacts
  rcases row_mem_zipIdx_or_default lang state with hrow | hrow
  · exact absurd ((testBit_statesWhere.mpr ⟨_, hrow, hacts⟩).symm.trans h) (by simp)
  · rw [hrow] at hacts
    simp [rowActsOn, tokensOf, default, instInhabitedStateRow.default] at hacts

/-- What is known of a state that has something to do with the second of two rivals. -/
structure Offered (lang : Language) (d : Accord) (state : ParseState) (x : Symbol × Symbol) (e : Entry) :
    Prop where
  entry : lang.entry? state x.2 = some e
  goes : ∃ a ∈ e.actions, goesOn a = true
  reads : (x.2, x.1) ∈ d.instead → lang.lexState state = lang.lexState ParseState.recovering
  reusable : ∀ e', lang.entry? state x.1 = some e' → e'.reusable = false

theorem exists_offered (h : lang.isResolving d rivals = true) {x : Symbol × Symbol} (hx : x ∈ rivals)
    {state : ParseState} (hactions : lang.hasActions state x.2 = true) :
    ∃ e, lang.Offered d state x e := by
  simp only [isResolving, seen_eq, Bool.and_eq_true, List.all_eq_true, Nat.blt_eq] at h
  obtain ⟨hrivals, hrows⟩ := h
  have hlt := (hrivals x hx).1
  obtain ⟨e, he⟩ := Option.isSome_iff_exists.mp hactions
  have hfind : (lang.row state).entries.find? (·.tokens.testBit x.2) = some e := by
    rwa [ entry?, if_pos hlt] at he
  have hoffers := (hrows _ (row_mem_zipIdx (List.mem_of_find?_eq_some hfind))).1 x hx
  rw [rowOffers, ← hasActions_eq hlt, hactions, hfind] at hoffers
  simp only [Bool.not_true, Bool.false_or, Bool.and_eq_true, Bool.or_eq_true, Bool.not_eq_true',
    beq_iff_eq, List.any_eq_true] at hoffers
  obtain ⟨⟨hgoes, hlex⟩, hreusable⟩ := hoffers
  refine ⟨e, he, hgoes, fun hinstead => ?_, fun e' he' => ?_⟩
  · refine hlex.resolve_left fun hnot => ?_
    exact absurd ((List.contains_iff_mem.mpr hinstead).symm.trans hnot) (by simp)
  · rw [ entry?] at he'
    split at he'
    · rw [he'] at hreusable
      simpa using hreusable
    · simp at he'

theorem actionKeepsTo_of_mem (h : lang.isResolving d rivals = true) {state : ParseState}
    {token : Symbol} {a : Action} (hmem : a ∈ lang.actions state token) :
    ∃ tokens, tokens.testBit token = true
      ∧ lang.actionKeepsTo rivals (lang.row state) state tokens a = true := by
  obtain ⟨-, -, e, he, hbit, hmem⟩ := mem_actions hmem
  simp only [isResolving, seen_eq, Bool.and_eq_true, List.all_eq_true] at h
  exact ⟨e.tokens, hbit, (h.2 _ (row_mem_zipIdx he)).2 e he a hmem⟩

theorem resolves_of_isResolving (h : lang.isResolving d rivals = true) : lang.Resolves d rivals := by
  have hrivals : ∀ x ∈ rivals, x.2 < lang.tokenCount ∧ lang.yieldsTo d x = true := by
    simp only [isResolving, Bool.and_eq_true, List.all_eq_true, Nat.blt_eq] at h
    exact h.1
  exact {
    yields := fun x hx => by
      have hyield := (hrivals x hx).2
      simp only [yieldsTo, Bool.or_eq_true, Bool.and_eq_true, beq_iff_eq, List.contains_iff_mem,
        List.mem_map] at hyield
      refine hyield.imp_right fun hkeyword => ?_
      obtain ⟨hword, word, hmem, heq⟩ := hkeyword
      exact ⟨hword, word.1, heq ▸ hmem⟩
    reads := fun x hx hinstead state hactions => by
      obtain ⟨e, hoffered⟩ := exists_offered h hx hactions
      exact hoffered.reads hinstead
    reusable := fun x hx state e he hreusable => by
      by_contra hactions
      obtain ⟨e', hoffered⟩ := exists_offered h hx (by simpa using hactions)
      exact absurd (hreusable.symm.trans (hoffered.reusable e he)) (by simp)
    acts := fun x hx state hactions => by
      obtain ⟨e, hoffered⟩ := exists_offered h hx hactions
      obtain ⟨a, ha, hgoes⟩ := hoffered.goes
      refine ⟨a, by simpa [actions, hoffered.entry] using ha, fun next hshift => ?_⟩
      simp [hshift, goesOn] at hgoes
    reduce := fun x hx {a b ss symbol production} hpath hmem hnone => by
      obtain ⟨tokens, hbit, hkeeps⟩ := actionKeepsTo_of_mem h hmem
      have hlt := (hrivals x hx).1
      rw [hasActions_eq hlt] at hnone ⊢
      simp only [actionKeepsTo, isIn_eq, Bool.and_eq_true, Nat.ble_eq, Nat.blt_eq,
        List.all_eq_true] at hkeeps
      have hwithin := hkeeps.2 x hx
      rw [hbit, hnone, Bool.not_true, Bool.false_or, Bool.false_or] at hwithin
      have hspared := of_testBit_leading hkeeps.1
        (testBit_of_isWithin hwithin (testBit_basesOf hpath rfl))
      rw [Bool.and_eq_true, Bool.not_eq_true', isIn_eq] at hspared
      exact rowActsOn_of_testBit hspared.2 }

end Language

namespace Harneet

/-- The rivals of Harneet's operators. -/
def rivals : List (Symbol × Symbol) :=
  [("-", "number"), ("-", "float"), ("+", "+="), ("-", "-="), ("*", "*="), ("/", "/="), ("%", "%="),
    ("identifier", "or"), ("identifier", "and")].map fun x => (symbolNamed x.1, symbolNamed x.2)

set_option maxRecDepth 100000 in
/-- In Harneet it is clear what is read instead of a token. -/
theorem clear : accord.Clear language where
  word := by decide +kernel
  keyword := by decide +kernel
  plain := by decide +kernel
  once := by decide +kernel
  known := by decide +kernel
  beside := by decide +kernel

end Harneet

end SyntaxKit
