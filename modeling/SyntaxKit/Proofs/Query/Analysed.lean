import SyntaxKit.Proofs.Query.Feasible
import SyntaxKit.Proofs.Query.Singles

/-!
# What the analysis of a program keeps

The analysis of a program finds out where a match can fail, and marks the steps accordingly.  Nothing but
these marks is changed, so whatever does not look at them holds of the
program before and after it.  A program is refused only for steps whose children no node has: where
every step that asks for children has a node with such a child, the analysis succeeds
(`Program.analyse_ok`).
-/

namespace SyntaxKit.Query

variable {lang : Language}

/-! ## Leaving out the marks -/

/-- A step without what is known of where a match can fail. -/
def Step.unmarked (s : Step) : Step :=
  { s with holdsCaptures := false, certain := false, certainInParent := false }

@[simp] theorem Step.role_unmarked (s : Step) : s.unmarked.role = s.role := rfl
@[simp] theorem Step.depth_unmarked (s : Step) : s.unmarked.depth = s.depth := rfl
@[simp] theorem Step.test_unmarked (s : Step) : s.unmarked.test = s.test := rfl
@[simp] theorem Step.last_unmarked (s : Step) : s.unmarked.last = s.last := rfl
@[simp] theorem Step.field_unmarked (s : Step) : s.unmarked.field = s.field := rfl
@[simp] theorem Step.absent_unmarked (s : Step) : s.unmarked.absent = s.absent := rfl
@[simp] theorem Step.captures_unmarked (s : Step) : s.unmarked.captures = s.captures := rfl
@[simp] theorem Step.alternative_unmarked (s : Step) : s.unmarked.alternative = s.alternative := rfl
@[simp] theorem Step.isStop_unmarked (s : Step) : s.unmarked.isStop = s.isStop := rfl

@[simp] theorem Step.isBelow_unmarked (s above : Step) :
    s.unmarked.isBelow above.unmarked = s.isBelow above := rfl

namespace Program

variable {p q : Program}

/-- A program without what is known of where a match can fail. -/
def unmarked (p : Program) : Program := { p with steps := p.steps.map Step.unmarked }

@[simp] theorem anywhere_unmarked (p : Program) : p.unmarked.anywhere = p.anywhere := rfl
@[simp] theorem atSymbol_unmarked (p : Program) : p.unmarked.atSymbol = p.atSymbol := rfl

@[simp] theorem size_unmarked (p : Program) : p.unmarked.steps.size = p.steps.size :=
  Array.size_map

@[simp] theorem step_unmarked (p : Program) (i : Nat) : p.unmarked.step i = (p.step i).unmarked := by
  rw [step, step, unmarked, Array.getD_eq_getD_getElem?, Array.getD_eq_getD_getElem?,
    Array.getElem?_map]
  cases p.steps[i]? with
  | none => rfl
  | some s => rfl

theorem belowCount_unmarked (p : Program) (i : Nat) : p.unmarked.belowCount i = p.belowCount i := by
  rw [belowCount, belowCount, step_unmarked, unmarked, Array.toList_map, ← List.map_drop,
    List.takeWhile_map, List.length_map]
  rfl

theorem parents_unmarked (p : Program) : p.unmarked.parents = p.parents := by
  simp only [parents, size_unmarked, step_unmarked, belowCount_unmarked, Step.test_unmarked,
    Step.isStop_unmarked]

theorem isSingle_unmarked {symbol : Symbol} {s : Start} :
    p.unmarked.IsSingle symbol s ↔ p.IsSingle symbol s := by
  have hends : ∀ i, p.unmarked.endsAt i = p.endsAt i := fun i => by simp [endsAt]
  constructor
  · rintro ⟨hrooted, hrole, hdepth, hsymbol, hfound, hlast, hfield, habsent, hend⟩
    simp only [step_unmarked, hends] at *
    exact ⟨hrooted, hrole, hdepth, hsymbol, hfound, hlast, hfield, habsent, hend⟩
  · rintro ⟨hrooted, hrole, hdepth, hsymbol, hfound, hlast, hfield, habsent, hend⟩
    refine ⟨hrooted, ?_, ?_, ?_, ?_, ?_, ?_, ?_, ?_⟩
    all_goals simpa only [step_unmarked, hends]

theorem singles_unmarked {pattern : Nat} : p.unmarked.Singles pattern ↔ p.Singles pattern := by
  constructor
  · rintro ⟨hanywhere, hsingle, hunique⟩
    exact ⟨hanywhere, fun e he hpattern => isSingle_unmarked.mp (hsingle e he hpattern), hunique⟩
  · rintro ⟨hanywhere, hsingle, hunique⟩
    exact ⟨hanywhere, fun e he hpattern => isSingle_unmarked.mpr (hsingle e he hpattern), hunique⟩

/-! ## Marking -/

theorem unmarked_foldl {β : Type} {f : Program → β → Program}
    (hf : ∀ p b, (f p b).unmarked = p.unmarked) (bs : List β) :
    ∀ p, (bs.foldl f p).unmarked = p.unmarked := by
  induction bs with
  | nil => exact fun _ => rfl
  | cons b bs ih => exact fun p => (ih _).trans (hf p b)

theorem unmarked_modifyAll {f : Step → Step} (hf : ∀ s, (f s).unmarked = s.unmarked) (p : Program)
    (steps : List Nat) : (p.modifyAll steps f).unmarked = p.unmarked := by
  have hfold : ∀ a : Array Step, (steps.foldl (fun a i => a.modify i f) a).map Step.unmarked
      = a.map Step.unmarked := by
    induction steps with
    | nil => exact fun _ => rfl
    | cons i steps ih =>
      intro a
      rw [List.foldl_cons, ih]
      refine Array.ext (by simp) fun j hj _ => ?_
      simp only [Array.getElem_map, Array.getElem_modify]
      split
      · exact hf _
      · rfl
  rw [modifyAll, unmarked, hfold, unmarked]

theorem unmarked_doubt (s : Step) : (doubt s).unmarked = s.unmarked := by
  rw [doubt]
  split
  · rfl
  · rfl

theorem unmarked_assumeCertain (p : Program) : p.assumeCertain.unmarked = p.unmarked := by
  refine unmarked_foldl (fun q i => ?_) _ p
  simp only
  split
  · exact unmarked_modifyAll (by exact fun _ => rfl) _ _
  · split
    · exact unmarked_modifyAll (by exact fun _ => rfl) _ _
    · rw [unmarked_modifyAll (by exact fun _ => rfl), unmarked_modifyAll (by exact fun _ => rfl)]

theorem unmarked_spreadAll (fuel : Nat) : ∀ p : Program, (spreadAll fuel p).unmarked = p.unmarked := by
  induction fuel with
  | zero => exact fun _ => rfl
  | succ fuel ih =>
    intro p
    rw [spreadAll]
    split
    · rfl
    · rw [ih, spreadDoubt]
      refine unmarked_foldl (fun q i => ?_) _ p
      simp only
      split
      · rfl
      · split
        · rfl
        · exact unmarked_modifyAll (by exact fun _ => rfl) _ _

theorem unmarked_doubtCaptures (p : Program) (conditioned : List (List Nat)) :
    (p.doubtCaptures conditioned).unmarked = p.unmarked :=
  unmarked_foldl (fun _ _ => unmarked_modifyAll (by exact fun _ => rfl) _ _) _ p

/-! ## Feasible steps -/

/-- There is a node of a symbol with a child that fits the step below the one that asks for the node. -/
def Feasible (lang : Language) (p : Program) (step : Nat) (symbol : Symbol) : Prop :=
  Survey.AsksOne p (step + 1) ∧ ∃ state ∈ (Derivation.ofLanguage lang).beginningsOf symbol,
    Survey.Offers lang (Survey.fits lang (p.step (step + 1))) symbol none 0 state

theorem stepBehind_unmarked (p : Program) (s : Step) (n : Nat) : ∀ i,
    Survey.stepBehind p.unmarked s.unmarked n i = Survey.stepBehind p s n i := by
  induction n with
  | zero => exact fun _ => rfl
  | succ n ih =>
    intro i
    rw [Survey.stepBehind, Survey.stepBehind, step_unmarked, Step.isBelow_unmarked, ih]

theorem asksOne_unmarked {step : Nat} :
    Survey.AsksOne p.unmarked step ↔ Survey.AsksOne p step := by
  simp [Survey.AsksOne, stepBehind_unmarked]

theorem feasible_unmarked {step : Nat} {symbol : Symbol} :
    Feasible lang p.unmarked step symbol ↔ Feasible lang p step symbol := by
  rw [Feasible, Feasible, asksOne_unmarked, step_unmarked]
  rfl

theorem mem_hidden {s : Symbol} (h : Survey.IsHidden lang s) :
    s ∈ ((List.range lang.symbols.size).drop lang.tokenCount).filter fun s => !lang.isVisible s := by
  obtain ⟨htoken, hbound, hhidden⟩ := h
  rw [List.mem_filter, List.mem_drop_iff_getElem]
  refine ⟨⟨s - lang.tokenCount, by simpa [Nat.sub_add_cancel htoken] using hbound, ?_⟩, by simp [hhidden]⟩
  simp [Nat.add_sub_cancel' htoken]

/-- Among the tables of some symbols is that of each of them. -/
theorem tabled_of_mem {symbol : Symbol} {symbols : List Symbol} (h : symbol ∈ symbols) :
    Survey.Tabled lang (symbols.filterMap fun s =>
      ((Derivation.ofLanguage lang).spots? s).map (s, ·)) symbol := by
  intro table hspots
  induction symbols with
  | nil => simp at h
  | cons s symbols ih =>
    by_cases hs : s = symbol
    · simp [hs, hspots]
    · have hmem := (List.mem_cons.mp h).resolve_left (Ne.symm hs)
      cases hother : (Derivation.ofLanguage lang).spots? s with
      | some table' => simp [hother, hs, ih hmem]
      | none => simp [hother, ih hmem]

/-- A feasible step is surveyed with no more than marks being changed. -/
theorem surveyParent_ok {tables : List (Symbol × SpotTable)} {step : Nat} {symbol : Symbol}
    (h : Feasible lang p step symbol)
    (hhidden : ∀ s, Survey.IsHidden lang s → Survey.Tabled lang tables s)
    (htabled : Survey.Tabled lang tables symbol) :
    ∃ q, surveyParent lang (.ofLanguage lang) tables p (step, symbol) = .ok q
      ∧ q.unmarked = p.unmarked := by
  obtain ⟨hasks, state, hbegin, hoffers⟩ := h
  have hdecided := Survey.ofParent_decided hasks hhidden htabled hbegin hoffers
  have hknown : tables.any (·.1 == symbol) = true := by
    obtain ⟨table, hspots⟩ := hoffers.exists_spots
    have hfind := htabled table hspots
    rw [List.any_eq_true]
    exact ⟨_, List.mem_of_find?_eq_some hfind, by simp⟩
  rw [surveyParent]
  simp only [hknown]
  split
  · exact ⟨p, rfl, rfl⟩
  · split
    · next hunknown => simp at hunknown
    · split
      · exact ⟨_, rfl, unmarked_modifyAll unmarked_doubt _ _⟩
      · next habandoned =>
        have hmatched := hdecided.resolve_right habandoned
        rw [hmatched]
        exact ⟨_, rfl, unmarked_modifyAll unmarked_doubt _ _⟩

/-- **A program whose steps are feasible is analysed**, and only marked. -/
theorem analyse_ok (h : ∀ parent ∈ p.parents, Feasible lang p parent.1 parent.2)
    (conditioned : List (List Nat)) :
    ∃ q, p.analyse lang (.ofLanguage lang) conditioned = .ok q ∧ q.unmarked = p.unmarked := by
  have hsurvey : ∀ {tables : List (Symbol × SpotTable)} {parents : List (Nat × Symbol)},
      (∀ s, Survey.IsHidden lang s → Survey.Tabled lang tables s) →
      (∀ parent ∈ parents, Feasible lang p parent.1 parent.2 ∧ Survey.Tabled lang tables parent.2) →
      ∀ {q : Program}, q.unmarked = p.unmarked →
      ∃ q', parents.foldlM (surveyParent lang (.ofLanguage lang) tables) q = .ok q'
        ∧ q'.unmarked = p.unmarked := by
    intro tables parents hhidden
    induction parents with
    | nil => exact fun _ q hq => ⟨q, rfl, hq⟩
    | cons parent parents ih =>
      intro hparents q hq
      obtain ⟨⟨hfeasible, htabled⟩, hrest⟩ := List.forall_mem_cons.mp hparents
      have hfeasible' : Feasible lang q parent.1 parent.2 := by
        rw [← feasible_unmarked, hq, feasible_unmarked]
        exact hfeasible
      obtain ⟨q', hok, hq'⟩ := surveyParent_ok hfeasible' hhidden htabled
      rw [List.foldlM_cons, hok]
      exact ih hrest (hq'.trans hq)
  have hassumed := unmarked_assumeCertain p
  have hparents : p.assumeCertain.parents = p.parents := by
    rw [← parents_unmarked, hassumed, parents_unmarked]
  rw [analyse]
  simp only [hparents]
  by_cases hnone : p.parents = []
  · rw [hnone]
    exact ⟨_, rfl, by rw [unmarked_spreadAll, unmarked_doubtCaptures, hassumed]⟩
  rw [List.isEmpty_eq_false_iff.mpr hnone, if_neg Bool.false_ne_true]
  generalize hhidden : ((List.range lang.symbols.size).drop lang.tokenCount).filter
    (fun s => !lang.isVisible s) = hidden
  have hmem : ∀ s, s ∈ p.parents.map (·.2) ∨ s ∈ hidden →
      s ∈ (p.parents.map (·.2) ++ hidden).eraseDups := by
    intro s hs
    rwa [List.mem_eraseDups, List.mem_append]
  obtain ⟨q, hok, hq⟩ := hsurvey
    (fun s hs => tabled_of_mem (hmem s (.inr (hhidden ▸ mem_hidden hs))))
    (fun parent hparent => ⟨h parent hparent,
      tabled_of_mem (hmem parent.2 (.inl (List.mem_map_of_mem hparent)))⟩) hassumed
  rw [hok]
  exact ⟨_, rfl, by rw [unmarked_spreadAll, unmarked_doubtCaptures, hq]⟩

end Program

end SyntaxKit.Query
