import SyntaxKit.Query.Matching

/-!
# Handing out captures

Captures are handed out in the order of the text, as soon as no match in progress can have an
earlier one, or when a match in progress is certain to be completed.  Matches whose conditions fail
are removed then.
-/

namespace SyntaxKit.Query

namespace Run

variable (p : Program)

/-- The next capture of a match to be handed out. -/
def nextCapture? (m : Match) : Option Capture := m.captures[m.consumed]?

/-- A match without the next captures that end at the start of the text, which are never handed out.
-/
def skipEmpty : Nat → Match → Match
  | 0, m => m
  | fuel + 1, m =>
    match nextCapture? m with
    | some c =>
      if endsAtStart c.mark then skipEmpty fuel { m with consumed := m.consumed + 1 } else m
    | none => m

/-- A match without leading captures that are never handed out. -/
def skipped (m : Match) : Match := skipEmpty m.captures.size m

/-- The position of a capture in the order in which captures are handed out: the start of its node,
then the pattern. -/
structure Turn where
  start : Nat
  pattern : Nat

/-- Whether a turn comes before another one. -/
def Turn.isBefore (a b : Turn) : Bool :=
  a.start < b.start || (a.start == b.start && a.pattern < b.pattern)

/-- The turn of a match's next capture. -/
def turn? (m : Match) : Option Turn := (nextCapture? m).map fun c => ⟨c.mark.start.bytes, m.pattern⟩

/-- The earlier of the best match so far and another one, each with its index; of equal ones the
former.  As long as there is none, a match has to come before `limit`. -/
def earlier (limit : Option Turn) (best : Option (Nat × Turn)) (x : Match × Nat) :
    Option (Nat × Turn) :=
  match turn? x.1 with
  | none => best
  | some t =>
    match (best.map (·.2)).or limit with
    | some bar => if t.isBefore bar then some (x.2, t) else best
    | none => some (x.2, t)

/-- The earliest of the matches, with its index; of equal ones the first.  Only turns before `limit`
count. -/
def earliest (limit : Option Turn) (ms : List Match) : Option (Nat × Turn) :=
  ms.zipIdx.foldl (earlier limit) none

/-- Whether a match in progress is certain to be completed as it is. -/
def isCertain (m : Match) : Bool :=
  let s := p.step m.step
  s.certain && !s.adjacent

/-- Marks that a capture of a match has been handed out, and numbers the match. -/
def consume (r : Run) (m : Match) : Match × Run :=
  match m.id with
  | some _ => ({ m with consumed := m.consumed + 1 }, r)
  | none =>
    ({ m with id := some r.nextId, consumed := m.consumed + 1 },
      { r with nextId := r.nextId + 1 })

/-- The next capture that can be handed out, with its match. -/
def release (r : Run) : Option (Match × Capture) × Run :=
  let active := r.active.map skipped
  let finished := (r.finished.map skipped).filter fun m => m.consumed < m.captures.size
  let r := { r with active, finished }
  let pending := earliest none active
  match earliest (pending.map (·.2)) finished with
  | some (i, _) =>
    let m := finished.getD i default
    let (m', r) := consume r m
    ((nextCapture? m).map (m', ·), { r with finished := finished.set i m' })
  | none =>
    match pending with
    | some (i, _) =>
      let m := active.getD i default
      if isCertain p m then
        let (m', r) := consume r m
        ((nextCapture? m).map (m', ·), { r with active := active.set i m' })
      else (none, r)
    | none => (none, r)

/-- Removes the match with a number. -/
def remove (r : Run) (id : Option Nat) : Run :=
  match r.finished.findIdx? (·.id == id) with
  | some i => { r with finished := r.finished.eraseIdx i }
  | none =>
    match r.active.findIdx? (·.id == id) with
    | some i => { r with active := r.active.eraseIdx i }
    | none => r

/-! ## What is left to do

With each turn there are fewer events left, or less is left to do with the matches. -/

/-- What is left to do with a match: to hand out the rest of its captures, and to drop it. -/
def work (m : Match) : Nat := m.captures.size - m.consumed + 1

/-- What is left to do with some matches. -/
def totalWork : List Match → Nat
  | [] => 0
  | m :: ms => work m + totalWork ms

/-- What is left to do with the matches of a run. -/
def remaining (r : Run) : Nat := totalWork r.active + totalWork r.finished

theorem work_skipEmpty (fuel : Nat) : ∀ m : Match, work (skipEmpty fuel m) ≤ work m := by
  induction fuel with
  | zero => exact fun m => Nat.le_refl _
  | succ fuel ih =>
    intro m
    rw [skipEmpty]
    split
    · split
      · refine Nat.le_trans (ih _) ?_
        simp only [work]
        omega
      · exact Nat.le_refl _
    · exact Nat.le_refl _

theorem totalWork_skipped (ms : List Match) : totalWork (ms.map skipped) ≤ totalWork ms := by
  induction ms with
  | nil => exact Nat.le_refl _
  | cons m ms ih =>
    have hm := work_skipEmpty m.captures.size m
    simp only [totalWork, List.map_cons, skipped] at ih ⊢
    omega

theorem totalWork_of_sublist {ms ms' : List Match} (h : ms.Sublist ms') :
    totalWork ms ≤ totalWork ms' := by
  induction h with
  | slnil => exact Nat.le_refl _
  | cons m _ ih =>
    simp only [totalWork] at ih ⊢
    omega
  | cons_cons m _ ih =>
    simp only [totalWork] at ih ⊢
    omega

theorem totalWork_set {m m' : Match} (hwork : work m' < work m) {ms : List Match} : ∀ {i : Nat},
    ms[i]? = some m → totalWork (ms.set i m') < totalWork ms := by
  induction ms with
  | nil => exact fun h => by simp at h
  | cons x ms ih =>
    intro i h
    cases i with
    | zero =>
      obtain rfl := Option.some.inj h
      simp only [totalWork, List.set_cons_zero]
      omega
    | succ i =>
      have hrest := ih h
      simp only [totalWork, List.set_cons_succ] at hrest ⊢
      omega

/-- What holds of the best match so far and of all others holds of the earliest. -/
theorem earlier_induction {limit : Option Turn} {Q : Option (Nat × Turn) → Prop}
    {found : List (Match × Nat)} (hstep : ∀ x ∈ found, ∀ best, Q best → Q (earlier limit best x)) :
    ∀ {best : Option (Nat × Turn)}, Q best → Q (found.foldl (earlier limit) best) := by
  induction found with
  | nil => exact fun h => h
  | cons x found ih =>
    intro best h
    obtain ⟨hx, hfound⟩ := List.forall_mem_cons.mp hstep
    exact ih hfound (hx best h)

/-- The earliest match has a capture to hand out. -/
theorem turn?_of_earliest {limit : Option Turn} {ms : List Match} {i : Nat} {t : Turn}
    (h : earliest limit ms = some (i, t)) : ∃ m, ms[i]? = some m ∧ turn? m = some t := by
  refine earlier_induction (Q := fun best => ∀ i t, best = some (i, t) →
    ∃ m, ms[i]? = some m ∧ turn? m = some t) (fun x hx best hbest => ?_) (by simp) i t h
  have hmatch := List.mem_zipIdx_iff_getElem?.mp hx
  rw [earlier]
  split
  · exact hbest
  · next t' hturn =>
    have hother : ∀ i t, some (x.2, t') = some (i, t) → ∃ m, ms[i]? = some m ∧ turn? m = some t := by
      intro i t heq
      obtain ⟨rfl, rfl⟩ := Prod.mk.inj (Option.some.inj heq)
      exact ⟨x.1, hmatch, hturn⟩
    split
    · split
      · exact hother
      · exact hbest
    · exact hother

/-- Where nothing comes before, there is an earliest match unless no match has a capture left. -/
theorem turn?_of_earliest_eq_none {ms : List Match} (h : earliest none ms = none) :
    ∀ m ∈ ms, turn? m = none := by
  have hsome : ∀ (found : List (Match × Nat)) best, (found.foldl (earlier none) best) = none →
      best = none ∧ ∀ x ∈ found, turn? x.1 = none := by
    intro found
    induction found with
    | nil => exact fun best h => ⟨h, by simp⟩
    | cons x found ih =>
      intro best h
      obtain ⟨hnone, hfound⟩ := ih _ h
      rw [earlier] at hnone
      split at hnone
      · next hturn => exact ⟨hnone, List.forall_mem_cons.mpr ⟨hturn, hfound⟩⟩
      · cases best <;> simp at hnone
        split at hnone <;> simp at hnone
  intro m hm
  obtain ⟨i, hi⟩ := List.getElem?_of_mem hm
  exact (hsome _ _ h).2 (m, i) (List.mem_zipIdx_iff_getElem?.mpr hi)

theorem nextCapture?_of_turn? {m : Match} {t : Turn} (h : turn? m = some t) :
    ∃ c, nextCapture? m = some c := by
  obtain ⟨c, hc, -⟩ := Option.map_eq_some_iff.mp h
  exact ⟨c, hc⟩

/-- Consuming a capture is some of the work, and leaves the matches of the run as they are. -/
theorem consume_spec (r : Run) {m : Match} {c : Capture} (h : nextCapture? m = some c) :
    work (consume r m).1 < work m ∧ (consume r m).2.active = r.active
      ∧ (consume r m).2.finished = r.finished := by
  obtain ⟨hlt, -⟩ := Array.getElem?_eq_some_iff.mp h
  rw [consume]
  split
  · refine ⟨?_, rfl, rfl⟩
    simp only [work]
    omega
  · refine ⟨?_, rfl, rfl⟩
    simp only [work]
    omega

/-- Handing out a capture leaves less to do; and if none can be handed out though no match is in
progress, there is nothing left to do. -/
theorem remaining_release (p : Program) (r : Run) :
    ((release p r).1.isSome → (release p r).2.remaining < r.remaining)
      ∧ (release p r).2.remaining ≤ r.remaining
      ∧ ((release p r).1 = none → (release p r).2.active = [] → (release p r).2.finished = []) := by
  have hactive := totalWork_skipped r.active
  have hfinished : totalWork ((r.finished.map skipped).filter fun m => m.consumed < m.captures.size)
      ≤ totalWork r.finished :=
    Nat.le_trans (totalWork_of_sublist List.filter_sublist) (totalWork_skipped r.finished)
  have hleft : ∀ m ∈ (r.finished.map skipped).filter fun m => m.consumed < m.captures.size,
      turn? m ≠ none := by
    intro m hm
    have hlt : m.consumed < m.captures.size := by simpa using (List.mem_filter.mp hm).2
    simp [turn?, nextCapture?, hlt]
  rw [release]
  simp only
  generalize (r.finished.map skipped).filter (fun m => m.consumed < m.captures.size) = finished
    at hfinished hleft
  generalize r.active.map skipped = active at hactive
  split
  · next i t hearliest =>
    obtain ⟨m, hm, hturn⟩ := turn?_of_earliest hearliest
    obtain ⟨c, hc⟩ := nextCapture?_of_turn? hturn
    obtain ⟨hwork, hkept, -⟩ := consume_spec { r with active, finished } hc
    have hless := totalWork_set hwork hm
    rw [List.getD_eq_getElem?_getD, hm, Option.getD_some, hc]
    simp only [remaining, hkept]
    exact ⟨fun _ => by omega, by omega, by simp⟩
  · next hnone =>
    split
    · next i t hearliest =>
      obtain ⟨m, hm, hturn⟩ := turn?_of_earliest hearliest
      obtain ⟨c, hc⟩ := nextCapture?_of_turn? hturn
      obtain ⟨hwork, -, hkept⟩ := consume_spec { r with active, finished } hc
      have hless := totalWork_set hwork hm
      rw [List.getD_eq_getElem?_getD, hm, Option.getD_some]
      split
      · simp only [hc, remaining, hkept]
        exact ⟨fun _ => by omega, by omega, by simp⟩
      · simp only [remaining]
        refine ⟨by simp, by omega, fun _ hnil => ?_⟩
        rw [hnil] at hm
        simp at hm
    · next hpending =>
      simp only [remaining]
      refine ⟨by simp, by omega, fun _ _ => List.eq_nil_iff_forall_not_mem.mpr fun m hm => ?_⟩
      rw [hpending] at hnone
      exact hleft m hm (turn?_of_earliest_eq_none hnone m hm)

theorem remaining_remove (r : Run) (id : Option Nat) : (r.remove id).remaining ≤ r.remaining := by
  rw [remove]
  split
  · exact Nat.add_le_add_left (totalWork_of_sublist (List.eraseIdx_sublist ..)) _
  · split
    · exact Nat.add_le_add_right (totalWork_of_sublist (List.eraseIdx_sublist ..)) _
    · exact Nat.le_refl _

/-- Going on uses up an event. -/
theorem length_proceed (p : Program) (e : Event) (rest : List Event) (r : Run) :
    (proceed p (e :: rest) r).1.length ≤ rest.length := by
  induction rest generalizing e r with
  | nil =>
    unfold proceed
    simp
  | cons e' rest ih =>
    unfold proceed
    simp only
    split
    · exact Nat.le_refl _
    · exact Nat.le_trans (ih e' _) (Nat.le_succ _)

/-- Hands out captures and goes on by turns, until nothing is left.  `accepts` says whether the
conditions of a match hold. -/
def collect (p : Program) (accepts : Match → Bool) (events : List Event) (r : Run)
    (seen : List Capture) : List Capture :=
  match _hreleased : release p r with
  | (some (m, c), r') =>
    if accepts m then collect p accepts events r' (c :: seen)
    else collect p accepts events (r'.remove m.id) seen
  | (none, r') =>
    match _hgone : proceed p events r' with
    | (events', r'', found) =>
      if _hover : !found && r''.finished.isEmpty then seen.reverse
      else collect p accepts events' r'' seen
termination_by (events.length, r.remaining)
decreasing_by
  · have hless := (remaining_release p r).1 (by rw [_hreleased]; rfl)
    rw [_hreleased] at hless
    exact Prod.Lex.right _ hless
  · have hless := (remaining_release p r).1 (by rw [_hreleased]; rfl)
    rw [_hreleased] at hless
    exact Prod.Lex.right _ (Nat.lt_of_le_of_lt (remaining_remove r' m.id) hless)
  · obtain ⟨-, hle, hover'⟩ := remaining_release p r
    rw [_hreleased] at hle hover'
    cases events with
    | cons e rest =>
      have hlength := length_proceed p e rest r'
      rw [_hgone] at hlength
      exact Prod.Lex.left _ _ (Nat.lt_succ_of_le hlength)
    | nil =>
      -- there are no events left, and what was in progress is given up
      obtain ⟨rfl, rfl, rfl⟩ : [] = events' ∧ { r' with active := [] } = r'' ∧ false = found := by
        simpa [proceed] using _hgone
      refine Prod.Lex.right _ ?_
      have hactive : r'.active ≠ [] := by
        intro hnil
        have hnone : r'.finished = [] := hover' rfl hnil
        simp [hnone] at _hover
      obtain ⟨m, ms, hms⟩ := List.exists_cons_of_ne_nil hactive
      simp only [remaining, totalWork, hms, work] at hle ⊢
      omega

end Run

/-- The texts of the nodes that a match has under a capture. -/
def capturedTexts (source : Source) (m : Match) (index : Nat) : List (List Char) :=
  (m.captures.toList.filter (·.index == index)).map fun c =>
    let start := c.mark.start.bytes
    (Text.take? (source.suffixAt start) (c.mark.stop.bytes - start)).getD []

/-- Whether the conditions of a match's pattern hold. -/
def accepts (q : Query) (source : Source) (m : Match) : Bool :=
  (q.conditions.getD m.pattern []).all (·.holds (capturedTexts source m))

/-- All captures of a query in a tree of a text, in the order in which they are handed out. -/
def captures (q : Query) (lang : Language) (t : Tree) (text : List Char) : List Capture :=
  let source := Source.ofText text
  Run.collect q.program (accepts q source) (events (t.places lang))
    ⟨[], [], 0⟩ []

end SyntaxKit.Query
