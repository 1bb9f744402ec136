import SyntaxKit.Proofs.Query.Derivations
import SyntaxKit.Query.Feasibility

/-!
# Patterns that some node fits are feasible

The children that a pattern asks for are matched against all nodes that the grammar allows.  While this
is done nothing that has been found is lost (`Survey.Grows`), and a trail along which a node can be built
that has a fitting child is followed until it gets there, or everything is given up
(`Survey.rounds_decided`).  So a step is never refused if there is a way of building a node of its symbol
with a child that fits the step below it (`Survey.ofParent_decided`).
-/

namespace SyntaxKit.Query

variable {lang : Language}

theorem Trail.mem_insert_self (t : Trail) (ts : List Trail) : t ∈ Trail.insert t ts := by
  induction ts with
  | nil => exact List.mem_singleton_self t
  | cons x ts ih =>
    rw [Trail.insert]
    split
    · next heq =>
      rw [heq]
      exact List.mem_cons_self ..
    · split
      · exact List.mem_cons_self ..
      · exact List.mem_cons_of_mem _ ih

theorem Trail.mem_insert_of_mem {t : Trail} (t' : Trail) {ts : List Trail} (h : t ∈ ts) :
    t ∈ Trail.insert t' ts := by
  induction ts with
  | nil => simp at h
  | cons x ts ih =>
    rw [Trail.insert]
    split
    · exact h
    · split
      · exact List.mem_cons_of_mem _ h
      · rcases List.mem_cons.mp h with rfl | h
        · exact List.mem_cons_self ..
        · exact List.mem_cons_of_mem _ (ih h)

namespace Survey

/-! ## What is found stays found -/

/-- Nothing of a survey is lost. -/
structure Grows (v w : Survey) : Prop where
  matched : v.matched = true → w.matched = true
  abandoned : v.abandoned = true → w.abandoned = true
  next : ∀ t ∈ v.next, t ∈ w.next

theorem Grows.refl (v : Survey) : Grows v v := ⟨id, id, fun _ h => h⟩

theorem Grows.trans {u v w : Survey} (h : Grows u v) (h' : Grows v w) : Grows u w :=
  ⟨h'.matched ∘ h.matched, h'.abandoned ∘ h.abandoned, fun t ht => h'.next t (h.next t ht)⟩

theorem grows_addFailure (v : Survey) (step : Nat) : Grows v (v.addFailure step) := by
  rw [addFailure]
  split
  · exact .refl v
  · exact ⟨id, id, fun _ h => h⟩

section Fold

variable {β : Type} {f : Survey → β → Survey} (hf : ∀ v b, Grows v (f v b))
include hf

theorem grows_foldl (bs : List β) : ∀ v, Grows v (bs.foldl f v) := by
  induction bs with
  | nil => exact .refl
  | cons b bs ih => exact fun v => (hf v b).trans (ih _)

/-- What one item leads to is there after all of them, if it stays there. -/
theorem reached_foldl {P : Survey → Prop} (hP : ∀ v w, Grows v w → P v → P w) {b : β}
    (hb : ∀ v, P (f v b)) {bs : List β} (hmem : b ∈ bs) : ∀ v, P (bs.foldl f v) := by
  induction bs with
  | nil => simp at hmem
  | cons b' bs ih =>
    intro v
    rcases List.mem_cons.mp hmem with rfl | hmem
    · exact hP _ _ (grows_foldl hf bs _) (hb v)
    · exact ih hmem _

end Fold

variable {program : Program} {s : Step} {frames : List Frame}

/-- What a trail that has come to a step adds to a survey. -/
def landed (next s : Step) (frames : List Frame) (i : Nat) (v : Survey) : Survey :=
  if next.role == .jump then v
  else if next.isStop || next.depth != s.depth then { v with matched := true }
  else if frames.isEmpty then v.addFailure i
  else { v with next := Trail.insert ⟨frames, i⟩ v.next }

theorem grows_landed (next s : Step) (frames : List Frame) (i : Nat) (v : Survey) :
    Grows v (landed next s frames i v) := by
  rw [landed]
  split
  · exact .refl v
  · split
    · exact ⟨fun _ => rfl, id, fun _ h => h⟩
    · split
      · exact grows_addFailure v i
      · exact ⟨id, id, fun _ h => Trail.mem_insert_of_mem _ h⟩

theorem arrive_of_ne_fork {fits : Bool} {i : Nat} (h : (program.step i).role ≠ .fork) (fuel : Nat)
    (v : Survey) : arrive program s fits frames (fuel + 1) i v
      = match (program.step i).alternative with
        | some a => if fits && i < a then
            arrive program s fits frames fuel a (landed (program.step i) s frames i v)
          else landed (program.step i) s frames i v
        | none => landed (program.step i) s frames i v := by
  rw [arrive, landed]
  cases hrole : (program.step i).role with
  | test => rfl
  | jump => rfl
  | fork => exact absurd hrole h
  | stop => rfl

theorem grows_arrive (fits : Bool) (fuel : Nat) : ∀ (i : Nat) (v : Survey),
    Grows v (arrive program s fits frames fuel i v) := by
  induction fuel with
  | zero => exact fun i v => .refl v
  | succ fuel ih =>
    intro i v
    by_cases hfork : (program.step i).role = .fork
    · rw [arrive]
      simp only [hfork]
      exact ih _ v
    · rw [arrive_of_ne_fork hfork]
      have hlanded := grows_landed (program.step i) s frames i v
      split
      · split
        · exact hlanded.trans (ih _ _)
        · exact hlanded
      · exact hlanded

/-- What a trail adds where it comes to a step is there after it has come to all alternatives. -/
theorem arrive_landed {i : Nat} (hfork : (program.step i).role ≠ .fork) (fits : Bool) (fuel : Nat)
    (v : Survey) :
    Grows (landed (program.step i) s frames i v)
      (arrive program s fits frames (fuel + 1) i v) := by
  rw [arrive_of_ne_fork hfork]
  split
  · split
    · exact grows_arrive _ _ _ _
    · exact .refl _
  · exact .refl _

theorem grows_follow (limit step : Nat) (top : Frame) (below : List Frame) (symbol : Symbol)
    (next : ParseState) (spot : Spot) (v : Survey) :
    Grows v (follow lang program limit step top below symbol next spot v) := by
  rw [follow]
  simp only
  have habandon : Grows v { v with abandoned := true } := ⟨id, fun _ => rfl, fun _ h => h⟩
  have hdeepen : ∀ t, Grows v { v with deeper := Trail.insert t v.deeper } :=
    fun _ => ⟨id, id, fun _ h => h⟩
  by_cases hhidden : ((program.step step).test.symbol != some Symbol.error && !lang.isVisible symbol
      && decide (lang.tokenCount ≤ symbol)) = true
  · rw [if_pos hhidden]
    repeat' split
    all_goals first
      | exact habandon
      | exact hdeepen _
      | exact .refl v
      | exact grows_arrive _ _ _ _
  · rw [if_neg hhidden]
    repeat' split
    all_goals first
      | exact .refl v
      | exact grows_arrive _ _ _ _

/-! ## Following the building of a node -/

/-- A step asks for a node, and no sibling is asked for behind what is below it. -/
def AsksOne (program : Program) (step : Nat) : Prop :=
  (program.step step).role = .test ∧ (program.step step).test.symbol ≠ some Symbol.error ∧
    let next := program.step (stepBehind program (program.step step) program.steps.size (step + 1))
    next.role ≠ .fork ∧ next.role ≠ .jump
      ∧ (next.isStop || next.depth != (program.step step).depth) = true

instance (program : Program) (step : Nat) : Decidable (AsksOne program step) :=
  inferInstanceAs (Decidable (_ ∧ _ ∧ _))

/-- Behind as many children of a node a further one leads from a state to the next, and others to the
end of the node. -/
structure Continues (lang : Language) (symbol : Symbol) (production count : Nat)
    (state : ParseState) (child : Symbol) (next : ParseState) (others : List Symbol) : Prop where
  isState : Derivation.IsState lang state
  move : (child, next) ∈ Derivation.movesOf lang state
  leaves : next ≠ state
  builds : lang.Builds symbol production (count + 1) next others

/-- A symbol of nodes that do not show. -/
def IsHidden (lang : Language) (symbol : Symbol) : Prop :=
  lang.tokenCount ≤ symbol ∧ symbol < lang.symbols.size ∧ lang.isVisible symbol = false

/-- Behind as many children of a node, which hands a field to them, the node is built from a state with
a further child that is wanted, perhaps in a hidden node that is the last child. -/
inductive Offers (lang : Language) (wants : Symbol → Option String → Bool) :
    Symbol → Option String → Nat → ParseState → Prop
  | here {symbol : Symbol} {field : Option String} {production count : Nat}
    {state next : ParseState} {child : Symbol} {others : List Symbol}
    (continues : Continues lang symbol production count state child next others)
    (wanted : wants child (field.orElse fun _ => lang.fieldOf? production count) = true) :
    Offers lang wants symbol field count state
  | past {symbol : Symbol} {field : Option String} {production count : Nat}
    {state next : ParseState} {child other : Symbol} {others : List Symbol}
    (continues : Continues lang symbol production count state child next (other :: others))
    (shown : lang.isVisible child = true ∨ child < lang.tokenCount)
    (offers : Offers lang wants symbol field (count + 1) next) :
    Offers lang wants symbol field count state
  | into {symbol : Symbol} {field : Option String} {production count : Nat}
    {state next : ParseState} {child : Symbol}
    (continues : Continues lang symbol production count state child next [])
    (hidden : IsHidden lang child)
    (offers : Offers lang wants child (field.orElse fun _ => lang.fieldOf? production count) 0 state) :
    Offers lang wants symbol field count state

/-- A symbol whose nodes offer something has a table of spots. -/
theorem Offers.exists_spots {wants : Symbol → Option String → Bool} {symbol : Symbol}
    {field : Option String} {count : Nat} {state : ParseState}
    (h : Offers lang wants symbol field count state) :
    ∃ table, (Derivation.ofLanguage lang).spots? symbol = some table := by
  cases h with
  | here continues _ => exact continues.builds.mem_spots.imp fun _ h => h.1
  | past continues _ _ => exact continues.builds.mem_spots.imp fun _ h => h.1
  | into continues _ _ => exact continues.builds.mem_spots.imp fun _ h => h.1

/-- A node that is being built. -/
@[reducible]
def frameOf (symbol : Symbol) (field : Option String) (state : ParseState) (count : Nat) : Frame :=
  ⟨state, symbol, count, field, false⟩

/-- The trail along which a single node is built. -/
def trailOf (step : Nat) (symbol : Symbol) (field : Option String) (state : ParseState)
    (count : Nat) : Trail :=
  ⟨[frameOf symbol field state count], step⟩

/-- Among some tables is that of a symbol, if there is one. -/
def Tabled (lang : Language) (tables : List (Symbol × SpotTable)) (symbol : Symbol) : Prop :=
  ∀ table, (Derivation.ofLanguage lang).spots? symbol = some table →
    tables.find? (·.1 == symbol) = some (symbol, table)

variable {step : Nat} {symbol : Symbol} {field : Option String} {production count : Nat}
  {state : ParseState} {tables : List (Symbol × SpotTable)}

/-- Some trail leads along the building of a node to a child that fits a step. -/
def Hopeful (lang : Language) (program : Program) (tables : List (Symbol × SpotTable)) (step : Nat)
    (ts : List Trail) : Prop :=
  ∃ symbol field count state, Tabled lang tables symbol
    ∧ Offers lang (fits lang (program.step step)) symbol field count state
    ∧ trailOf step symbol field state count ∈ ts

/-- A match has been found, or everything given up. -/
def Decided (v : Survey) : Prop := v.matched = true ∨ v.abandoned = true

theorem Hopeful.mono {ts ts' : List Trail} (h : Hopeful lang program tables step ts)
    (hsub : ∀ t ∈ ts, t ∈ ts') : Hopeful lang program tables step ts' := by
  obtain ⟨symbol, field, count, state, htabled, hoffers, hmem⟩ := h
  exact ⟨symbol, field, count, state, htabled, hoffers, hsub _ hmem⟩

theorem not_hopeful_nil : ¬Hopeful lang program tables step [] := by
  rintro ⟨_, _, _, _, -, -, hmem⟩
  simp at hmem

theorem Decided.grows {v w : Survey} (h : v.Decided) (hgrows : Grows v w) : w.Decided :=
  h.imp hgrows.matched hgrows.abandoned

theorem grows_followAll (limit : Nat) (t : Trail) (v : Survey) :
    Grows v (followAll lang (.ofLanguage lang) tables program limit t v) := by
  rw [followAll]
  split
  · exact .refl v
  · split
    · exact .refl v
    · exact grows_foldl (fun v _ => grows_foldl (fun v _ => grows_follow _ _ _ _ _ _ _ v) _ v) _ v

/-- What following a trail to one of the next children leads to is there after following it to all. -/
theorem followAll_of_follow {P : Survey → Prop} (hP : ∀ v w, Grows v w → P v → P w) {limit : Nat}
    {next : ParseState} {child : Symbol} {others : List Symbol} (htabled : Tabled lang tables symbol)
    (h : Continues lang symbol production count state child next others)
    (hfollow : ∀ v, P (follow lang program limit step (frameOf symbol field state count) [] child
      next ⟨production, count + 1, others.isEmpty⟩ v)) (v : Survey) :
    P (followAll lang (.ofLanguage lang) tables program limit (trailOf step symbol field state count)
      v) := by
  obtain ⟨table, hspots, hholds⟩ := h.builds.mem_spots
  rw [followAll, trailOf]
  simp only [htabled table hspots]
  have hspot : ⟨production, count + 1, others.isEmpty⟩ ∈ (table.getD next []).filter
      (·.children == if next = state then count else count + 1) := by
    rw [List.mem_filter]
    exact ⟨hholds h.builds (Nat.succ_pos _), by simp [h.leaves]⟩
  refine reached_foldl (P := P) (b := (child, next)) (fun v _ => ?_) hP (fun v => ?_) ?_ v
  · exact grows_foldl (fun v _ => grows_follow _ _ _ _ _ _ _ v) _ v
  · refine reached_foldl (P := P) (b := ⟨production, count + 1, others.isEmpty⟩)
      (fun v _ => ?_) hP hfollow hspot v
    exact grows_follow _ _ _ _ _ _ _ v
  · rw [Derivation.moves_getD h.isState]
    exact h.move

/-- A trail over a child that fits ends a match. -/
theorem follow_fits (hstep : AsksOne program step) {child : Symbol}
    (hfits : fits lang (program.step step) child
      (field.orElse fun _ => lang.fieldOf? production count) = true)
    (limit : Nat) (next : ParseState) (complete : Bool) (v : Survey) :
    (follow lang program limit step (frameOf symbol field state count) [] child next
      ⟨production, count + 1, complete⟩ v).matched = true := by
  obtain ⟨-, herror, hfork, hjump, hbehind⟩ := hstep
  have hshown : lang.isVisible child = true := by
    rw [fits, Bool.or_eq_true, Bool.and_eq_true, Bool.and_eq_true, beq_iff_eq] at hfits
    exact (hfits.resolve_left herror).1.1
  rw [follow]
  simp only [hshown, hfits, Bool.not_true, Bool.and_false, Bool.false_and,
    if_neg Bool.false_ne_true, if_true]
  refine (arrive_landed hfork _ _ _).matched ?_
  rw [landed, if_neg (by simpa using hjump), if_pos hbehind]

/-- Where a trail goes on with the same step it is kept for the next round. -/
theorem mem_next_arrive (hstep : AsksOne program step) {frames : List Frame} (hframes : frames ≠ [])
    (v : Survey) : (⟨frames, step⟩ : Trail)
      ∈ (arrive program (program.step step) false frames (program.steps.size + 1) step v).next := by
  have hrole := hstep.1
  refine (arrive_landed (by rw [hrole]; decide) _ _ _).next _ ?_
  rw [landed, if_neg (by rw [hrole]; decide), if_neg (by simp [Step.isStop, hrole]),
    if_neg (by simpa using hframes)]
  exact Trail.mem_insert_self _ _

/-- A trail goes on over a child that is not entered and does not fit. -/
theorem follow_past (hstep : AsksOne program step) {child : Symbol}
    (hshown : lang.isVisible child = true ∨ child < lang.tokenCount)
    (hfits : ¬fits lang (program.step step) child
      (field.orElse fun _ => lang.fieldOf? production count) = true)
    {next : ParseState} (hleaves : next ≠ state) (limit : Nat) (v : Survey) :
    trailOf step symbol field next (count + 1) ∈ (follow lang program limit step
      (frameOf symbol field state count) [] child next ⟨production, count + 1, false⟩ v).next := by
  have hentered : ((program.step step).test.symbol != some Symbol.error && !lang.isVisible child
      && decide (lang.tokenCount ≤ child)) = false := by
    rcases hshown with hvisible | htoken
    · simp [hvisible]
    · simp [Nat.not_le_of_gt htoken]
  rw [follow]
  simp only [hentered, if_neg Bool.false_ne_true]
  rw [if_neg hfits, if_neg hleaves]
  exact mem_next_arrive hstep (List.cons_ne_nil (frameOf symbol field next (count + 1)) []) v

/-- A trail goes on inside a hidden child that completes its parent. -/
theorem follow_into (hstep : AsksOne program step) {child : Symbol} (hhidden : IsHidden lang child)
    {next : ParseState} (hleaves : next ≠ state) (limit : Nat) (v : Survey) :
    trailOf step child (field.orElse fun _ => lang.fieldOf? production count) state 0
      ∈ (follow lang program limit step (frameOf symbol field state count) [] child next
        ⟨production, count + 1, true⟩ v).next := by
  obtain ⟨htoken, -, hshown⟩ := hhidden
  have herror := hstep.2.1
  have hentered : ((program.step step).test.symbol != some Symbol.error && !lang.isVisible child
      && decide (lang.tokenCount ≤ child)) = true := by
    simp [herror, hshown, htoken]
  rw [follow]
  simp only [hentered, Bool.or_true, Bool.not_true, Bool.false_and, if_true,
    if_neg Bool.false_ne_true, if_neg hleaves, Trail.nesting, Trail.nesting.go]
  exact mem_next_arrive hstep (List.cons_ne_nil _ []) v

/-! ## Rounds -/

section Rounds

variable (hstep : AsksOne program step) (hhidden : ∀ s, IsHidden lang s → Tabled lang tables s)
include hstep hhidden

/-- Following a trail that leads to a fitting child ends a match, or leads on to it. -/
theorem followAll_hopeful (htabled : Tabled lang tables symbol)
    (hoffers : Offers lang (fits lang (program.step step)) symbol field count state) (limit : Nat) (v : Survey) :
    let w := followAll lang (.ofLanguage lang) tables program limit
      (trailOf step symbol field state count) v
    w.matched = true ∨ Hopeful lang program tables step w.next := by
  have hP : ∀ v w : Survey, Grows v w → v.matched = true ∨ Hopeful lang program tables step v.next →
      w.matched = true ∨ Hopeful lang program tables step w.next :=
    fun v w hgrows h => h.imp hgrows.matched (·.mono hgrows.next)
  cases hoffers with
  | here continues wanted =>
    exact followAll_of_follow hP htabled continues
      (fun v => .inl (follow_fits hstep wanted limit _ _ v)) v
  | @past _ _ production _ _ _ child _ _ continues shown offers =>
    refine followAll_of_follow hP htabled continues (fun v => ?_) v
    by_cases hfits : fits lang (program.step step) child
        (field.orElse fun _ => lang.fieldOf? production count) = true
    · exact .inl (follow_fits hstep hfits limit _ _ v)
    · exact .inr ⟨_, _, _, _, htabled, offers,
        follow_past hstep shown hfits continues.leaves limit v⟩
  | into continues hidden offers =>
    exact followAll_of_follow hP htabled continues (fun v => .inr ⟨_, _, _, _, hhidden _ hidden,
      offers, follow_into hstep hidden continues.leaves limit v⟩) v

/-- A round follows every trail, or keeps it for the next one. -/
theorem round_hopeful (limit : Nat) : ∀ {ts : List Trail} {v : Survey},
    v.Decided ∨ Hopeful lang program tables step ts ∨ Hopeful lang program tables step v.next →
    (round lang (.ofLanguage lang) tables program limit ts v).Decided
      ∨ Hopeful lang program tables step
        (round lang (.ofLanguage lang) tables program limit ts v).next := by
  intro ts
  induction ts with
  | nil =>
    rintro v (hdecided | hnil | hnext)
    · exact .inl hdecided
    · exact absurd hnil not_hopeful_nil
    · exact .inr hnext
  | cons t ts ih =>
    intro v h
    have hfollow : (round lang (.ofLanguage lang) tables program limit ts
          (followAll lang (.ofLanguage lang) tables program limit t v)).Decided
        ∨ Hopeful lang program tables step (round lang (.ofLanguage lang) tables program limit ts
            (followAll lang (.ofLanguage lang) tables program limit t v)).next := by
      have hgrows := @grows_followAll lang program tables limit t v
      refine ih ?_
      rcases h with hdecided | ⟨symbol, field, count, state, htabled, hoffers, hmem⟩ | hnext
      · exact .inl (hdecided.grows hgrows)
      · rcases List.mem_cons.mp hmem with rfl | hmem
        · rcases followAll_hopeful hstep hhidden htabled hoffers limit v with hmatched | hnext
          · exact .inl (.inl hmatched)
          · exact .inr (.inr hnext)
        · exact .inr (.inl ⟨symbol, field, count, state, htabled, hoffers, hmem⟩)
      · exact .inr (.inr (hnext.mono hgrows.next))
    rw [round]
    split
    · exact hfollow
    · split
      · refine ih ?_
        rcases h with hdecided | ⟨symbol, field, count, state, htabled, hoffers, hmem⟩ | hnext
        · exact .inl hdecided
        · rcases List.mem_cons.mp hmem with rfl | hmem
          · exact .inr (.inr ⟨symbol, field, count, state, htabled, hoffers,
              Trail.mem_insert_self _ _⟩)
          · exact .inr (.inl ⟨symbol, field, count, state, htabled, hoffers, hmem⟩)
        · exact .inr (.inr (hnext.mono fun t ht => Trail.mem_insert_of_mem _ ht))
      · rcases h with hdecided | hts | hnext
        · exact .inl hdecided
        · exact .inr (hts.mono fun t ht => List.mem_append_right _ ht)
        · exact .inr (hnext.mono fun t ht => List.mem_append_left _ ht)
      · exact hfollow

/-- Trails one of which leads to a fitting child are followed until a child fits, or given up. -/
theorem rounds_decided (fuel : Nat) : ∀ (limit known : Nat) {ts : List Trail} {v : Survey},
    v.Decided ∨ Hopeful lang program tables step ts →
    (rounds lang (.ofLanguage lang) tables program fuel limit known ts v).Decided := by
  induction fuel with
  | zero => exact fun limit known ts v _ => .inr rfl
  | succ fuel ih =>
    intro limit known ts v h
    cases ts with
    | nil =>
      have hdecided := h.resolve_right not_hopeful_nil
      simp only [rounds]
      split
      · exact ih _ _ (.inl hdecided)
      · exact hdecided
    | cons t ts =>
      simp only [rounds]
      refine ih _ _ (round_hopeful hstep hhidden limit ?_)
      rcases h with hdecided | hts
      · exact .inl hdecided
      · exact .inr (.inl hts)

end Rounds

/-- **A step is not refused if there is a node with a child that fits the step below it.** -/
theorem ofParent_decided (hstep : AsksOne program (step + 1))
    (hhidden : ∀ s, IsHidden lang s → Tabled lang tables s) (htabled : Tabled lang tables symbol)
    (hbegin : state ∈ (Derivation.ofLanguage lang).beginningsOf symbol)
    (hoffers : Offers lang (fits lang (program.step (step + 1))) symbol none 0 state) :
    (ofParent lang (.ofLanguage lang) tables program step symbol).Decided := by
  refine rounds_decided hstep hhidden roundLimit 0 0
    (.inr ⟨symbol, none, 0, state, htabled, hoffers, ?_⟩)
  exact List.mem_map_of_mem (f := fun state => trailOf (step + 1) symbol none state 0) hbegin

end Survey

end SyntaxKit.Query
