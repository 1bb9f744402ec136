import SyntaxKit.Language.Harneet
import SyntaxKit.Parse.Recover

/-!
# What is asked of the tables of a language

The parser relies on its tables in a few ways that the tables alone can tell: the state of recovery
leads nowhere, the end of the text is accepted and never shifted, and a token that may be inserted
because it is missing is one that shows.  A token either stands beside the grammar wherever it is read
or never does, and none that is shifted leads to the state in which a text is complete, so that what
is complete is always a node.  `Language.Orderly` lists these conditions and
`Language.isOrderly` decides them by looking at every row; Harneet's tables meet them
(`Harneet.orderly`).
-/

namespace SyntaxKit

namespace Language

variable (lang : Language)

/-- The tables of a language are in order. -/
structure Orderly : Prop where
  someToken : 1 ≤ lang.tokenCount
  tokens : lang.tokenCount ≤ Symbol.skipped
  /-- The lexical automaton recognises tokens only. -/
  lexical : ∀ i token, (lang.lexStates.getD i default).accepts = some token →
    token < lang.tokenCount
  word : lang.wordToken < lang.tokenCount ∧ lang.wordToken ≠ Symbol.endOfText
    ∧ lang.isVisible lang.wordToken = true
  /-- Nothing is built in the state of recovery. -/
  recovering : ∀ token a, a ∈ lang.actions ParseState.recovering token →
    a = .recover ∨ a = .shiftExtra
  stays : ∀ s, lang.nextState ParseState.recovering s = ParseState.recovering
  shift : ∀ state token next repetition,
    .shift next repetition ∈ lang.actions state token → token ≠ Symbol.endOfText
  reduce : ∀ state token symbol count production,
    .reduce symbol count production ∈ lang.actions state token →
      lang.tokenCount ≤ symbol ∧ symbol < Symbol.skipped
  accept : ∀ state token, .accept ∈ lang.actions state token → token = Symbol.endOfText
  /-- A token behind which something is reduced is visible. -/
  missing : ∀ state token first, 1 ≤ token → token < lang.tokenCount →
    lang.nextState state token ≠ 0 → lang.nextState state token ≠ state →
    lang.reducesOn (lang.nextState state token) first = true → lang.isVisible token = true
  beside : ∀ state token, .shiftExtra ∈ lang.actions state token →
    Parse.isExtraToken lang token = true
  apart : ∀ state token next repetition, .shift next repetition ∈ lang.actions state token →
    Parse.isExtraToken lang token = false
  /-- No text is complete behind a token. -/
  complete : ∀ state token next repetition, .shift next repetition ∈ lang.actions state token →
    ∀ token, .accept ∉ lang.actions next token

/-! ## Deciding it -/

/-- Whether an entry is in order. -/
def entryIsOrderly (e : Entry) : Bool :=
  e.actions.all fun a => match a with
    | .shift _ _ => !e.tokens.testBit Symbol.endOfText
    | .reduce symbol _ _ => decide (lang.tokenCount ≤ symbol) && decide (symbol < Symbol.skipped)
    | .accept => e.tokens == 1
    | .shiftExtra | .recover => true

/-- Whether a row is one of a state in which nothing is built. -/
def rowStays (row : StateRow) : Bool :=
  row.gotos.isEmpty &&
    row.entries.all fun e => e.actions.all fun a => a == .recover || a == .shiftExtra

/-- Whether some reduction is the first thing that is done on some token. -/
def rowReduces (row : StateRow) : Bool :=
  row.entries.any fun e => match e.actions with
    | .reduce .. :: _ => true
    | _ => false

/-- The state that a row leads to over a token, `0` if it leads nowhere or stays. -/
def shiftTarget (row : StateRow) (token : Symbol) : ParseState :=
  match row.entries.find? (·.tokens.testBit token) with
  | none => 0
  | some e =>
    match e.actions.getLast? with
    | some (.shift next _) => next
    | _ => 0

/-- Whether nothing is reduced behind a token. -/
def nothingBehind (token : Symbol) : Bool :=
  lang.parseStates.toList.all fun row =>
    let next := shiftTarget row token
    next == 0 || !rowReduces (lang.row next)

/-- Whether only tokens are recognised in a state of the lexical automaton. -/
def lexesTokens (s : LexState) : Bool :=
  match s.accepts with
  | some token => decide (token < lang.tokenCount)
  | none => true

/-- Whether some text is complete in a row. -/
def rowAccepts (row : StateRow) : Bool :=
  row.entries.any fun e => e.actions.any (· == .accept)

/-- The states in which some text is complete. -/
def accepting : List ParseState :=
  (lang.parseStates.toList.zipIdx.filter fun x => rowAccepts x.1).map (·.2)

/-- The tokens that stand beside the grammar, as a set of bits. -/
def extraTokens : Nat :=
  (((lang.row ParseState.initial).entries.find? (·.actions == [.shiftExtra])).map (·.tokens)).getD 0

/-- Whether an entry shifts as extras what stands beside the grammar and shifts nothing else of it,
and no text is complete in a state that it leads to. -/
def entryKeepsApart (extras : Nat) (complete : List ParseState) (e : Entry) : Bool :=
  e.actions.all fun a => match a with
    | .shift next _ => e.tokens &&& extras == 0 && !complete.contains next
    | .shiftExtra => e.tokens ||| extras == extras
    | .reduce .. | .accept | .recover => true

/-- Whether tokens beside the grammar and others are kept apart. -/
def keepsApart (extras : Nat) : Bool :=
  ((List.range lang.tokenCount).all fun token =>
    extras.testBit token == Parse.isExtraToken lang token)
    && lang.parseStates.toList.all fun row =>
      row.entries.all (entryKeepsApart extras lang.accepting)

/-- Decides whether the tables are in order, as far as can be seen one row at a time. -/
def isOrderly : Bool :=
  decide (1 ≤ lang.tokenCount) && decide (lang.tokenCount ≤ Symbol.skipped)
    && lang.lexStates.toList.all lang.lexesTokens
    && (decide (lang.wordToken < lang.tokenCount) && lang.wordToken != Symbol.endOfText
      && lang.isVisible lang.wordToken)
    && rowStays (lang.row ParseState.recovering)
    && (lang.parseStates.toList.all fun row => row.entries.all lang.entryIsOrderly)
    && ((List.range lang.tokenCount).all fun token =>
      token == 0 || lang.isVisible token || lang.nothingBehind token)
    && lang.keepsApart lang.extraTokens

variable {lang}

/-- A token is neither of the labels of text in error. -/
theorem Orderly.token_ne (h : lang.Orderly) {token : Nat} (htoken : token < lang.tokenCount) :
    token ≠ Symbol.error ∧ token ≠ Symbol.skipped := by
  have htokens := h.tokens
  rw [Symbol.error, Symbol.skipped] at *
  omega

/-! ## The rows of a language -/

theorem row_mem_or_default (lang : Language) (state : ParseState) :
    lang.row state ∈ lang.parseStates.toList ∨ lang.row state = default := by
  rw [row, Array.getD_eq_getD_getElem?]
  by_cases h : state < lang.parseStates.size
  · rw [Array.getElem?_eq_getElem h]
    exact .inl (Array.getElem_mem_toList h)
  · rw [Array.getElem?_eq_none (Nat.le_of_not_lt h)]
    exact .inr rfl

theorem row_mem_zipIdx_or_default (lang : Language) (state : ParseState) :
    (lang.row state, state) ∈ lang.parseStates.toList.zipIdx ∨ lang.row state = default := by
  rw [List.mem_zipIdx_iff_getElem?, row, Array.getD_eq_getD_getElem?, Array.getElem?_toList]
  cases lang.parseStates[state]? with
  | none => exact .inr rfl
  | some row => exact .inl rfl

/-- A row that has an entry is that of a state. -/
theorem row_mem_zipIdx {lang : Language} {state : ParseState} {e : Entry}
    (he : e ∈ (lang.row state).entries) :
    (lang.row state, state) ∈ lang.parseStates.toList.zipIdx := by
  rcases row_mem_zipIdx_or_default lang state with hrow | hrow
  · exact hrow
  · rw [hrow] at he
    simp [default, instInhabitedStateRow.default] at he

/-- An action stands in an entry of the row of its state. -/
theorem mem_actions {state : ParseState} {token : Symbol} {a : Action}
    (h : a ∈ lang.actions state token) :
    token < lang.tokenCount ∧ lang.row state ∈ lang.parseStates.toList
      ∧ ∃ e ∈ (lang.row state).entries, e.tokens.testBit token = true ∧ a ∈ e.actions := by
  rw [actions, entry?] at h
  split at h
  · next htoken =>
    cases hfind : (lang.row state).entries.find? (·.tokens.testBit token) with
    | none => simp [hfind] at h
    | some e =>
      rw [hfind] at h
      have he := List.mem_of_find?_eq_some hfind
      have hbit := List.find?_some hfind
      refine ⟨htoken, ?_, e, he, hbit, h⟩
      rcases row_mem_or_default lang state with hrow | hrow
      · exact hrow
      · rw [hrow] at he
        simp [default, instInhabitedStateRow.default] at he
  · simp at h

/-- There is nothing to be done on a symbol that is no token. -/
theorem actions_eq_nil {state : ParseState} {s : Symbol} (h : lang.tokenCount ≤ s) :
    lang.actions state s = [] := by
  rw [actions, entry?, if_neg (Nat.not_lt.mpr h)]
  rfl

/-- A state from which a token leads somewhere else leads there by a shift. -/
theorem nextState_eq_shiftTarget {state : ParseState} {token : Nat}
    (htokens : lang.tokenCount ≤ Symbol.skipped) (htoken : token < lang.tokenCount)
    (h : lang.nextState state token ≠ 0) (hmoves : lang.nextState state token ≠ state) :
    lang.nextState state token = shiftTarget (lang.row state) token
      ∧ lang.row state ∈ lang.parseStates.toList := by
  have herror : ¬(token = Symbol.error ∨ token = Symbol.skipped) := by
    rw [Symbol.error, Symbol.skipped] at *
    omega
  rw [nextState, if_neg herror, if_pos htoken] at h hmoves ⊢
  rw [shiftTarget]
  rw [actions, entry?, if_pos htoken] at h hmoves ⊢
  cases hfind : (lang.row state).entries.find? (·.tokens.testBit token) with
  | none => simp [hfind] at h
  | some e =>
    simp only [hfind, Option.map_some, Option.getD_some] at h hmoves ⊢
    have hrow : lang.row state ∈ lang.parseStates.toList := by
      rcases row_mem_or_default lang state with hrow | hrow
      · exact hrow
      · rw [hrow] at hfind
        simp [default, instInhabitedStateRow.default] at hfind
    cases hlast : e.actions.getLast? with
    | none => simp [hlast] at h
    | some a =>
      rw [hlast] at h hmoves
      cases a with
      | shift next repetition => exact ⟨rfl, hrow⟩
      | shiftExtra => simp at hmoves
      | _ => simp at h

/-- What a state reduces on some token its row reduces. -/
theorem rowReduces_of_reducesOn {state : ParseState} {token : Symbol}
    (h : lang.reducesOn state token = true) : rowReduces (lang.row state) = true := by
  rw [reducesOn] at h
  split at h
  · next symbol count production rest hactions =>
    rw [actions, entry?] at hactions
    split at hactions
    · cases hfind : (lang.row state).entries.find? (·.tokens.testBit token) with
      | none => simp [hfind] at hactions
      | some e =>
        rw [hfind] at hactions
        simp only [Option.map_some, Option.getD_some] at hactions
        rw [rowReduces, List.any_eq_true]
        exact ⟨e, List.mem_of_find?_eq_some hfind, by rw [hactions]⟩
    · simp at hactions
  · simp at h

theorem rowAccepts_of_mem {state : ParseState} {token : Symbol}
    (h : .accept ∈ lang.actions state token) : rowAccepts (lang.row state) = true := by
  obtain ⟨-, -, e, he, -, hmem⟩ := mem_actions h
  exact List.any_eq_true.mpr ⟨e, he, List.any_eq_true.mpr ⟨.accept, hmem, by simp⟩⟩

theorem mem_accepting {state : ParseState} {token : Symbol}
    (h : .accept ∈ lang.actions state token) : state ∈ lang.accepting := by
  have haccepts := rowAccepts_of_mem h
  rcases row_mem_zipIdx_or_default lang state with hrow | hrow
  · exact List.mem_map.mpr ⟨_, List.mem_filter.mpr ⟨hrow, haccepts⟩, rfl⟩
  · rw [hrow] at haccepts
    simp [rowAccepts, default, instInhabitedStateRow.default] at haccepts

/-- What can be seen of an action in a language that keeps tokens apart. -/
theorem entryKeepsApart_of_mem {extras : Nat} (h : lang.keepsApart extras = true)
    {state : ParseState} {token : Symbol} {a : Action} (ha : a ∈ lang.actions state token) :
    ∃ e : Entry, e.tokens.testBit token = true ∧ a ∈ e.actions
      ∧ entryKeepsApart extras lang.accepting e = true
      ∧ extras.testBit token = Parse.isExtraToken lang token := by
  simp only [keepsApart, Bool.and_eq_true, List.all_eq_true, List.mem_range, beq_iff_eq] at h
  obtain ⟨htoken, hrow, e, he, hbit, hmem⟩ := mem_actions ha
  exact ⟨e, hbit, hmem, h.2 _ hrow e he, h.1 token htoken⟩

theorem beside_of_keepsApart {extras : Nat} (h : lang.keepsApart extras = true)
    {state : ParseState} {token : Symbol} (ha : .shiftExtra ∈ lang.actions state token) :
    Parse.isExtraToken lang token = true := by
  obtain ⟨e, hbit, hmem, he, htoken⟩ := entryKeepsApart_of_mem h ha
  have hsub : e.tokens ||| extras = extras := by simpa using List.all_eq_true.mp he _ hmem
  rw [← htoken, ← hsub, Nat.testBit_or, hbit, Bool.true_or]

theorem apart_of_keepsApart {extras : Nat} (h : lang.keepsApart extras = true)
    {state next : ParseState} {token : Symbol} {repetition : Bool}
    (ha : .shift next repetition ∈ lang.actions state token) :
    Parse.isExtraToken lang token = false
      ∧ ∀ token, .accept ∉ lang.actions next token := by
  obtain ⟨e, hbit, hmem, he, htoken⟩ := entryKeepsApart_of_mem h ha
  have hboth : e.tokens &&& extras = 0 ∧ next ∉ lang.accepting := by
    simpa using List.all_eq_true.mp he _ hmem
  refine ⟨?_, fun other haccept => ?_⟩
  · have hzero := congrArg (·.testBit token) hboth.1
    simp only [Nat.testBit_and, hbit, Bool.true_and, Nat.zero_testBit] at hzero
    rw [← htoken, hzero]
  · exact hboth.2 (mem_accepting haccept)

/-! ## Deciding is right -/

theorem orderly_of_isOrderly (h : lang.isOrderly = true) : lang.Orderly := by
  simp only [isOrderly, Bool.and_eq_true, decide_eq_true_eq, List.all_eq_true, bne_iff_ne] at h
  obtain ⟨⟨⟨⟨⟨⟨⟨hsome, htokens⟩, hlexical⟩, ⟨hwordLt, hwordNe⟩, hwordVisible⟩, hstays⟩, hentries⟩,
    hmissing⟩, hapart⟩ := h
  simp only [rowStays, Bool.and_eq_true, List.isEmpty_iff, List.all_eq_true, Bool.or_eq_true,
    beq_iff_eq] at hstays
  obtain ⟨hgotos, hactions⟩ := hstays
  have hentry : ∀ {state : ParseState} {token : Symbol} {a : Action},
      a ∈ lang.actions state token → ∃ e : Entry, e.tokens.testBit token = true
        ∧ a ∈ e.actions ∧ lang.entryIsOrderly e = true := by
    intro state token a ha
    obtain ⟨-, hrow, e, he, hbit, hmem⟩ := mem_actions ha
    exact ⟨e, hbit, hmem, hentries _ hrow e he⟩
  have hrecovering : ∀ token a, a ∈ lang.actions ParseState.recovering token →
      a = .recover ∨ a = .shiftExtra := by
    intro token a ha
    obtain ⟨-, -, e, he, -, hmem⟩ := mem_actions ha
    exact hactions e he a hmem
  refine {
    someToken := hsome
    tokens := htokens
    lexical := fun i token haccepts => ?_
    word := ⟨hwordLt, hwordNe, hwordVisible⟩
    recovering := hrecovering
    stays := fun s => ?_
    shift := fun state token next repetition ha => ?_
    reduce := fun state token symbol count production ha => ?_
    accept := fun state token ha => ?_
    missing := fun state token first hpos htoken hleads hmoves hreduces => ?_
    beside := fun state token ha => beside_of_keepsApart hapart ha
    apart := fun state token next repetition ha => (apart_of_keepsApart hapart ha).1
    complete := fun state token next repetition ha => (apart_of_keepsApart hapart ha).2 }
  · rw [Array.getD_eq_getD_getElem?] at haccepts
    by_cases hi : i < lang.lexStates.size
    · rw [Array.getElem?_eq_getElem hi] at haccepts
      have htoken := hlexical _ (Array.getElem_mem_toList hi)
      simp only [Option.getD_some] at haccepts
      rw [lexesTokens, haccepts] at htoken
      simpa using htoken
    · rw [Array.getElem?_eq_none (Nat.le_of_not_lt hi)] at haccepts
      simp [default, instInhabitedLexState.default] at haccepts
  · rw [nextState]
    split
    · rfl
    · split
      · split
        · next hlast =>
          rcases hrecovering s _ (List.mem_of_getLast? hlast) with hr | hr
          · simp at hr
          · simp at hr
        · rfl
        · rfl
      · rw [hgotos]
        rfl
  · obtain ⟨e, hbit, hmem, he⟩ := hentry ha
    rintro rfl
    have := List.all_eq_true.mp he _ hmem
    simp [hbit] at this
  · obtain ⟨e, hbit, hmem, he⟩ := hentry ha
    have := List.all_eq_true.mp he _ hmem
    simpa using this
  · obtain ⟨e, hbit, hmem, he⟩ := hentry ha
    have hone : e.tokens = 1 := by simpa using List.all_eq_true.mp he _ hmem
    rw [hone] at hbit
    exact Nat.testBit_one_eq_true_iff_self_eq_zero.mp hbit
  · obtain ⟨hnext, hrow⟩ := nextState_eq_shiftTarget htokens htoken hleads hmoves
    have hone := hmissing token (List.mem_range.mpr htoken)
    simp only [Bool.or_eq_true, beq_iff_eq] at hone
    rcases hone with (hzero | hvisible) | hbehind
    · simp only [hzero] at hpos
      simp at hpos
    · exact hvisible
    · have hbehind' := List.all_eq_true.mp hbehind _ hrow
      simp only [Bool.or_eq_true, beq_iff_eq, Bool.not_eq_true'] at hbehind'
      rw [← hnext, rowReduces_of_reducesOn hreduces] at hbehind'
      simp [hleads] at hbehind'

end Language

namespace Language

variable {lang : Language}

/-- A token leads to the state of recovery, stands beside the grammar and leads nowhere else, or
leads to where no text is complete. -/
theorem Orderly.nextState_token (h : lang.Orderly) (state : ParseState) {token : Symbol}
    (htoken : token < lang.tokenCount) :
    lang.nextState state token = ParseState.recovering
      ∨ Parse.isExtraToken lang token = true ∧ lang.nextState state token = state
      ∨ Parse.isExtraToken lang token = false
        ∧ ∀ other, .accept ∉ lang.actions (lang.nextState state token) other := by
  obtain ⟨herror, hskipped⟩ := h.token_ne htoken
  rw [nextState, if_neg (by simp [herror, hskipped]), if_pos htoken]
  split
  · next next repetition hlast =>
    have hmem := List.mem_of_getLast? hlast
    exact .inr (.inr ⟨h.apart _ _ _ _ hmem, h.complete _ _ _ _ hmem⟩)
  · next hlast => exact .inr (.inl ⟨h.beside _ _ (List.mem_of_getLast? hlast), rfl⟩)
  · exact .inl rfl

end Language

/-- **The tables of Harneet are in order.** -/
theorem Harneet.orderly : Harneet.language.Orderly :=
  Language.orderly_of_isOrderly (by decide +kernel)

end SyntaxKit
