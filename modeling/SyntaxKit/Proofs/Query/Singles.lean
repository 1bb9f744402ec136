import SyntaxKit.Proofs.Query.Captures

/-!
# Patterns of single nodes

A pattern that asks for one node of a certain kind, and nothing else, is completed as soon as such a node
is entered: no match of it ever waits for another node, and so none has a rival.  Hence a query
without conditions captures every node of that kind (`Query.mem_captures_of_single`).  Whatever else
the query looks for makes no difference, although the matches of all patterns are kept in one list
and their captures are handed out by turns.
-/

namespace SyntaxKit

namespace Query

/-! ## Programs -/

namespace Program

variable (p : Program)

/-- Behind the step before this one a pattern ends, perhaps by a jump. -/
def endsAt (i : Nat) : Bool :=
  match (p.step i).alternative with
  | none => (p.step i).isStop
  | some a => (p.step i).role == .jump && (p.step a).isStop && (p.step a).alternative.isNone

/-- A start asks for one node with a symbol, and nothing else. -/
structure IsSingle (symbol : Symbol) (s : Start) : Prop where
  rooted : s.rooted = true
  role : (p.step s.step).role = .test
  depth : (p.step s.step).depth = 0
  symbol : (p.step s.step).test.symbol = some symbol
  found : (p.step s.step).test.missing = false
  last : (p.step s.step).last = false
  field : (p.step s.step).field = none
  absent : (p.step s.step).absent = []
  ends : p.endsAt (s.step + 1) = true

/-- A pattern asks for single nodes, each of another kind. -/
structure Singles (pattern : Nat) : Prop where
  anywhere : ∀ s ∈ p.anywhere, s.pattern ≠ pattern
  single : ∀ e ∈ p.atSymbol, e.2.pattern = pattern → p.IsSingle e.1 e.2
  unique : p.atSymbol.Pairwise fun e e' =>
    e.2.pattern = pattern → e'.2.pattern = pattern → e.1 ≠ e'.1

end Program

/-- A match has a capture that is still to be handed out. -/
def Match.Owes (c : Capture) (m : Match) : Prop := ∃ k, m.consumed ≤ k ∧ m.captures[k]? = some c

namespace Run

variable {p : Program} {pattern : Nat}

/-- The matches of a pattern among others. -/
def ofPattern (pattern : Nat) (ms : List Match) : List Match := ms.filter (·.pattern == pattern)

@[simp] theorem ofPattern_nil : ofPattern pattern [] = [] := rfl

theorem ofPattern_append (ms ms' : List Match) :
    ofPattern pattern (ms ++ ms') = ofPattern pattern ms ++ ofPattern pattern ms' :=
  List.filter_append ..

theorem ofPattern_cons_self {m : Match} (h : m.pattern = pattern) (ms : List Match) :
    ofPattern pattern (m :: ms) = m :: ofPattern pattern ms :=
  List.filter_cons_of_pos (by simp [h])

theorem ofPattern_cons_ne {m : Match} (h : m.pattern ≠ pattern) (ms : List Match) :
    ofPattern pattern (m :: ms) = ofPattern pattern ms :=
  List.filter_cons_of_neg (by simp [h])

theorem ofPattern_eq_nil {ms : List Match} :
    ofPattern pattern ms = [] ↔ ∀ m ∈ ms, m.pattern ≠ pattern := by
  simp [ofPattern, List.filter_eq_nil_iff]

/-! ## Beginning -/

theorem ofPattern_insertMatch_ne {m : Match} (h : m.pattern ≠ pattern) (active : List Match) :
    ofPattern pattern (insertMatch m active) = ofPattern pattern active := by
  rcases insertMatch_spec m active with ⟨heq, -⟩ | ⟨before, after, rfl, heq⟩
  · rw [heq]
  · rw [heq, ofPattern_append, ofPattern_append, ofPattern_cons_ne h]

theorem ofPattern_insertMatch_self {m : Match} (h : m.pattern = pattern) {active : List Match}
    (hactive : ofPattern pattern active = []) : ofPattern pattern (insertMatch m active) = [m] := by
  rcases insertMatch_spec m active with ⟨-, other, hmem, hother⟩ | ⟨before, after, rfl, heq⟩
  · exact absurd (hother.trans h) (ofPattern_eq_nil.mp hactive other hmem)
  · rw [ofPattern_append, List.append_eq_nil_iff] at hactive
    rw [heq, ofPattern_append, ofPattern_cons_self h, hactive.1, hactive.2, List.nil_append]

/-- The match that begins at a node. -/
def fresh (place : Place) (s : Start) : Match where
  id := none
  pattern := s.pattern
  step := s.step
  rootDepth := place.depth
  captures := #[]
  consumed := 0
  immediate := true
  needsParent := false
  rivalled := false

theorem ofPattern_begin_ne {s : Start} (h : s.pattern ≠ pattern) (place : Place)
    (active : List Match) :
    ofPattern pattern (begin p place active s) = ofPattern pattern active := by
  rw [begin]
  split
  · rw [ofPattern_append, ofPattern_cons_ne h, ofPattern_nil, List.append_nil]
  · exact ofPattern_insertMatch_ne h active

theorem ofPattern_begin_single {symbol : Symbol} {s : Start} (h : p.IsSingle symbol s)
    (hpattern : s.pattern = pattern) (place : Place) {active : List Match}
    (hactive : ofPattern pattern active = []) :
    ofPattern pattern (begin p place active s) = [fresh place s] := by
  have hstop : (p.step s.step).isStop = false := by simp [Step.isStop, h.role]
  rw [begin]
  simp only [hstop, h.depth]
  exact ofPattern_insertMatch_self hpattern hactive

theorem ofPattern_beginEach_ne (place : Place) {starts : List Start}
    (h : ∀ s ∈ starts, s.pattern ≠ pattern) : ∀ active : List Match,
      ofPattern pattern (starts.foldl (begin p place) active) = ofPattern pattern active := by
  induction starts with
  | nil => exact fun _ => rfl
  | cons s starts ih =>
    intro active
    obtain ⟨hs, hstarts⟩ := List.forall_mem_cons.mp h
    rw [List.foldl_cons, ih hstarts, ofPattern_begin_ne hs]

/-- What may begin at a node. -/
def startsAt (p : Program) (place : Place) : List Start :=
  ((if place.symbol == Symbol.error then [] else p.anywhere)
    ++ (p.atSymbol.filter (·.1 == place.symbol)).map (·.2)).filter (mayBegin p place)

/-- Of what excludes each other there is at most one in a list. -/
theorem exists_of_pairwise {α : Type} {P : α → Prop} [DecidablePred P] {xs : List α}
    (h : xs.Pairwise fun x x' => P x → ¬P x') : (∀ x ∈ xs, ¬P x)
      ∨ ∃ before x after, xs = before ++ x :: after ∧ P x ∧ (∀ y ∈ before, ¬P y)
        ∧ ∀ y ∈ after, ¬P y := by
  induction xs with
  | nil => exact .inl (by simp)
  | cons x xs ih =>
    obtain ⟨hx, hxs⟩ := List.pairwise_cons.mp h
    by_cases hPx : P x
    · exact .inr ⟨[], x, xs, rfl, hPx, by simp, fun y hy => hx y hy hPx⟩
    · rcases ih hxs with hnone | ⟨before, y, after, rfl, hy, hbefore, hafter⟩
      · exact .inl (List.forall_mem_cons.mpr ⟨hPx, hnone⟩)
      · exact .inr ⟨x :: before, y, after, rfl, hy, List.forall_mem_cons.mpr ⟨hPx, hbefore⟩, hafter⟩

/-- Of a pattern of single nodes, at most one match begins at a node. -/
theorem startsAt_singles (h : p.Singles pattern) (place : Place) :
    (∀ s ∈ startsAt p place, s.pattern ≠ pattern)
      ∨ ∃ before s after, startsAt p place = before ++ s :: after ∧ s.pattern = pattern
        ∧ (∀ s ∈ before, s.pattern ≠ pattern) ∧ ∀ s ∈ after, s.pattern ≠ pattern := by
  refine exists_of_pairwise (P := fun s : Start => s.pattern = pattern) (.filter _ ?_)
  rw [List.pairwise_append]
  refine ⟨?_, ?_, fun s hs s' _ hsame => ?_⟩
  · refine List.Pairwise.imp_of_mem (R := fun _ _ => True) (fun {s s'} hs _ _ hsame => ?_)
      (List.pairwise_of_forall fun _ _ => trivial)
    split at hs
    · simp at hs
    · exact absurd hsame (h.anywhere s hs)
  · rw [List.pairwise_map]
    refine (h.unique.filter _).imp_of_mem fun {e e'} he he' hne hsame hsame' => ?_
    have hsymbol := (List.mem_filter.mp he).2
    have hsymbol' := (List.mem_filter.mp he').2
    simp only [beq_iff_eq] at hsymbol hsymbol'
    exact hne hsame hsame' (hsymbol.trans hsymbol'.symm)
  · split at hs
    · simp at hs
    · exact absurd hsame (h.anywhere s hs)

/-- Every start of a pattern of single nodes asks for the node that it is tried at. -/
theorem isSingle_of_mem_startsAt (h : p.Singles pattern) {place : Place} {s : Start}
    (hs : s ∈ startsAt p place) (hpattern : s.pattern = pattern) : p.IsSingle place.symbol s := by
  rcases List.mem_append.mp (List.mem_filter.mp hs).1 with hs | hs
  · split at hs
    · simp at hs
    · exact absurd hpattern (h.anywhere s hs)
  · obtain ⟨e, he, rfl⟩ := List.mem_map.mp hs
    obtain ⟨hmem, hsymbol⟩ := List.mem_filter.mp he
    simp only [beq_iff_eq] at hsymbol
    exact hsymbol ▸ h.single e hmem hpattern

/-- Of a pattern of single nodes, nothing or one fresh match is in progress when all matches have begun
that can begin at a node. -/
theorem ofPattern_beginAll (h : p.Singles pattern) (place : Place) {active : List Match}
    (hactive : ofPattern pattern active = []) :
    (ofPattern pattern (beginAll p place active) = [] ∧ ∀ s ∈ startsAt p place, s.pattern ≠ pattern)
      ∨ ∃ s, (∀ s' ∈ startsAt p place, s'.pattern = pattern → s' = s) ∧ s.pattern = pattern
        ∧ p.IsSingle place.symbol s
        ∧ ofPattern pattern (beginAll p place active) = [fresh place s] := by
  have hbegin : beginAll p place active = (startsAt p place).foldl (begin p place) active := rfl
  rw [hbegin]
  rcases startsAt_singles h place with hnone | ⟨before, s, after, hstarts, hs, hbefore, hafter⟩
  · exact .inl ⟨by rw [ofPattern_beginEach_ne place hnone, hactive], hnone⟩
  · have hmem : s ∈ startsAt p place := by
      rw [hstarts]
      simp
    have hsingle := isSingle_of_mem_startsAt h hmem hs
    refine .inr ⟨s, fun s' hs' hpattern => ?_, hs, hsingle, ?_⟩
    · rw [hstarts, List.mem_append, List.mem_cons] at hs'
      rcases hs' with hs' | hs' | hs'
      · exact absurd hpattern (hbefore s' hs')
      · exact hs'
      · exact absurd hpattern (hafter s' hs')
    rw [hstarts, List.foldl_append, List.foldl_cons, ofPattern_beginEach_ne place hafter]
    refine ofPattern_begin_single hsingle hs place ?_
    rw [ofPattern_beginEach_ne place hbefore, hactive]

/-! ## Meeting a node -/

theorem ofPattern_flatMap_meet (place : Place) (ms : List Match) :
    ofPattern pattern ((ms.map (meet p place)).flatMap (·.1))
      = (ofPattern pattern ms).flatMap fun m => (meet p place m).1 := by
  induction ms with
  | nil => rfl
  | cons m ms ih =>
    rw [List.map_cons, List.flatMap_cons, ofPattern_append, ih]
    by_cases hm : m.pattern = pattern
    · rw [ofPattern_cons_self hm, List.flatMap_cons]
      congr 1
      exact List.filter_eq_self.mpr fun m' hm' => by
        simp [(follows_meet p hm').pattern, hm]
    · rw [ofPattern_cons_ne hm, ofPattern_eq_nil.mpr fun m' hm' => by
        rw [(follows_meet p hm').pattern]
        exact hm]
      rfl

/-- A match that a node has completed. -/
structure Completed (p : Program) (s : Start) (mark : Mark) (m : Match) : Prop where
  pattern : m.pattern = s.pattern
  stop : (p.step m.step).isStop = true
  unrivalled : m.rivalled = false
  unused : m.consumed = 0
  captured : ∀ index ∈ (p.step s.step).captures, ⟨mark, index⟩ ∈ m.captures

theorem mem_captures_of_mem {indices : List Nat} {index : Nat} (h : index ∈ indices) (mark : Mark)
    (m : Match) : ⟨mark, index⟩ ∈ (m.capture indices mark).captures := by
  rw [Match.capture]
  simp only
  generalize m.captures = captures
  have hkept : ∀ (indices : List Nat) {captures : Array Capture}, ⟨mark, index⟩ ∈ captures →
      ⟨mark, index⟩ ∈ indices.foldl (fun cs i => cs.push ⟨mark, i⟩) captures := by
    intro indices
    induction indices with
    | nil => exact fun h => h
    | cons i indices ih => exact fun h => ih (Array.mem_push.mpr (.inl h))
  induction indices generalizing captures with
  | nil => simp at h
  | cons i indices ih =>
    rcases List.mem_cons.mp h with rfl | h
    · exact hkept indices (Array.mem_push.mpr (.inr rfl))
    · exact ih h _

/-- Behind a single node there is nothing to choose. -/
theorem branch_of_endsAt {m : Match} (h : p.endsAt m.step = true) (fuel : Nat) :
    ∃ step, branch p (fuel + 1) m = [{ m with step }] ∧ (p.step step).isStop = true := by
  rw [Program.endsAt] at h
  rw [branch]
  cases halternative : (p.step m.step).alternative with
  | none =>
    rw [halternative] at h
    exact ⟨m.step, rfl, h⟩
  | some a =>
    rw [halternative] at h
    simp only [Bool.and_eq_true, beq_iff_eq, Option.isNone_iff_eq_none] at h
    obtain ⟨⟨hjump, hstop⟩, hnone⟩ := h
    simp only [hjump]
    refine ⟨a, ?_, hstop⟩
    cases fuel with
    | zero => rfl
    | succ fuel => simp only [branch, hnone]

/-- A match that fits a node and does not wait for another one goes on. -/
theorem meet_of_advance {place : Place} {m m' : Match} (hm : m.rivalled = false)
    (hstop : (p.step m.step).isStop = false)
    (hdepth : m.rootDepth + (p.step m.step).depth = place.depth)
    (hlater : mayFitLater place (p.step m.step) m = false) (hfits : fits place (p.step m.step) = true)
    (hadvance : advance p place (p.step m.step) m = some m') :
    (meet p place m).1 = branch p (p.steps.size + 1) m' := by
  have hself : ({ m with rivalled := false } : Match) = m := by rw [← hm]
  rw [meet, hself]
  simp [hstop, hdepth, hlater, hfits, hadvance]

/-- A node that is asked for completes the fresh match. -/
theorem meet_fresh {place : Place} {s : Start} (h : p.IsSingle place.symbol s) :
    ∃ m, (meet p place (fresh place s)).1 = [m] ∧ Completed p s place.mark m := by
  have hstop : (p.step s.step).isStop = false := by simp [Step.isStop, h.role]
  have hfits : fits place (p.step s.step) = true := by
    simp [fits, h.symbol, h.found, h.last, h.field, h.absent]
  obtain ⟨immediate, hadvance⟩ : ∃ immediate, advance p place (p.step s.step) (fresh place s)
      = some { (fresh place s).capture (p.step s.step).captures place.mark with
          step := s.step + 1, immediate } := ⟨_, rfl⟩
  have hmeet := meet_of_advance (m := fresh place s) rfl hstop (by simp [fresh, h.depth])
    (by simp [mayFitLater, fresh]) hfits hadvance
  obtain ⟨step, hbranch, hstep⟩ := branch_of_endsAt (m :=
    { (fresh place s).capture (p.step s.step).captures place.mark with
        step := s.step + 1, immediate }) h.ends p.steps.size
  exact ⟨_, hmeet.trans hbranch, {
    pattern := rfl
    stop := hstep
    unrivalled := rfl
    unused := rfl
    captured := fun index hindex => mem_captures_of_mem hindex _ _ }⟩

/-! ## Settling -/

/-- A match makes no difference to those of other patterns behind it. -/
theorem compareWith_ne {m : Match} (hm : m.pattern ≠ pattern) (rest : List Match) :
    ofPattern pattern (compareWith m rest).2 = ofPattern pattern rest
      ∧ (compareWith m rest).2.length ≤ rest.length
      ∧ ∀ m', (compareWith m rest).1 = some m' → m'.pattern = m.pattern := by
  induction rest generalizing m with
  | nil => simp [compareWith]
  | cons other rest ih =>
    rw [compareWith]
    split
    · simp
    · next hsame =>
      simp only [Bool.or_eq_true, bne_iff_ne, ne_eq, not_or, Decidable.not_not] at hsame
      have hother : other.pattern ≠ pattern := hsame.2 ▸ hm
      have hmarked : ∀ marked : Bool, (if marked then { other with rivalled := true }
          else other).pattern ≠ pattern := by
        intro marked
        split
        · exact hother
        · exact hother
      have hself : ∀ marked : Bool, (if marked then { m with rivalled := true }
          else m).pattern = m.pattern := by
        intro marked
        split
        · rfl
        · rfl
      generalize m.compareCaptures other = both
      obtain ⟨contains, contained⟩ := both
      simp only
      rw [ofPattern_cons_ne hother]
      split
      · obtain ⟨hrest, hlength, hkept⟩ := ih hm
        exact ⟨hrest, Nat.le_succ_of_le hlength, hkept⟩
      · split
        · exact ⟨by rw [ofPattern_cons_ne (hmarked contains)], Nat.le_refl _, by simp⟩
        · obtain ⟨hrest, hlength, hkept⟩ := ih (m := if contained then { m with rivalled := true }
            else m) (by rw [hself]; exact hm)
          refine ⟨?_, Nat.succ_le_succ hlength, fun m' hm' => (hkept m' hm').trans (hself contained)⟩
          rw [ofPattern_cons_ne (hmarked contains), hrest]

/-- A match is not compared with those of other patterns. -/
theorem compareWith_self {m : Match} {rest : List Match} (h : ∀ other ∈ rest, other.pattern ≠ m.pattern) :
    compareWith m rest = (some m, rest) := by
  cases rest with
  | nil => rfl
  | cons other rest =>
    rw [compareWith, if_pos]
    simp [h other (List.mem_cons_self ..)]

/-- Settling finishes a completed match without a rival, if it is the only one of its pattern, and
leaves none of the pattern in progress. -/
theorem settle_singles (done : List Match) (hone : done.length ≤ 1)
    (hdone : ∀ m ∈ done, m.pattern = pattern ∧ (p.step m.step).isStop = true ∧ m.rivalled = false)
    (fuel : Nat) : ∀ {active kept : List Match} (finished : List Match), active.length ≤ fuel →
      ofPattern pattern active = done → ofPattern pattern kept = [] →
      ofPattern pattern (settle p fuel active kept finished).1 = []
        ∧ ∀ m, m ∈ done ∨ m ∈ finished → m ∈ (settle p fuel active kept finished).2 := by
  have hreverse : ∀ {ms : List Match}, ofPattern pattern ms = [] →
      ofPattern pattern ms.reverse = [] := by
    intro ms h
    rw [ofPattern_eq_nil] at h ⊢
    exact fun m hm => h m (List.mem_reverse.mp hm)
  induction fuel generalizing done with
  | zero =>
    intro active kept finished hlength hactive hkept
    obtain rfl := List.length_eq_zero_iff.mp (Nat.le_zero.mp hlength)
    obtain rfl : [] = done := hactive
    refine ⟨?_, fun m hm => List.mem_reverse.mpr (by simpa using hm)⟩
    rw [settle, List.append_nil]
    exact hreverse hkept
  | succ fuel ih =>
    intro active kept finished hlength hactive hkept
    cases active with
    | nil =>
      obtain rfl : [] = done := hactive
      exact ⟨hreverse hkept, fun m hm => List.mem_reverse.mpr (by simpa using hm)⟩
    | cons m rest =>
      rw [List.length_cons] at hlength
      rw [settle]
      by_cases hm : m.pattern = pattern
      · -- the completed match is the only one of its pattern
        rw [ofPattern_cons_self hm] at hactive
        subst hactive
        have hnone : ofPattern pattern rest = [] := by
          rw [List.length_cons] at hone
          exact List.length_eq_zero_iff.mp (by omega)
        have hothers : ∀ other ∈ rest, other.pattern ≠ m.pattern := by
          rw [hm]
          exact ofPattern_eq_nil.mp hnone
        obtain ⟨-, hstop, hrivalled⟩ := hdone m (List.mem_cons_self ..)
        rw [compareWith_self hothers]
        simp only [hstop, hrivalled, Bool.not_false, Bool.and_self, if_true]
        obtain ⟨hleft, hfinished⟩ := ih [] (by simp) (by simp)
          (m :: finished) (by omega) hnone hkept
        refine ⟨hleft, fun m' hm' => hfinished m' (.inr ?_)⟩
        rw [hnone] at hm'
        simpa using hm'
      · rw [ofPattern_cons_ne hm] at hactive
        obtain ⟨hrest, hshorter, hpattern⟩ := compareWith_ne hm rest
        rw [hactive] at hrest
        split
        · next rest' heq =>
          rw [heq] at hrest hshorter
          exact ih done hone hdone finished (Nat.le_trans hshorter (by omega)) hrest hkept
        · next m' rest' heq =>
          rw [heq] at hrest hshorter hpattern
          have hm' : m'.pattern ≠ pattern := by
            rw [hpattern m' rfl]
            exact hm
          split
          · obtain ⟨hleft, hfinished⟩ := ih done hone hdone (m' :: finished)
              (Nat.le_trans hshorter (by omega)) hrest hkept
            exact ⟨hleft, fun x hx => hfinished x (hx.imp_right (List.mem_cons_of_mem _))⟩
          · exact ih done hone hdone finished (Nat.le_trans hshorter (by omega)) hrest
              (by rw [ofPattern_cons_ne hm', hkept])

/-! ## The way through the tree -/

/-- No match of the pattern is in progress. -/
def Quiet (pattern : Nat) (r : Run) : Prop := ofPattern pattern r.active = []

/-- A capture of a finished match is still to be handed out. -/
def Owes (c : Capture) (r : Run) : Prop := ∃ m ∈ r.finished, Match.Owes c m

theorem Completed.owes {s : Start} {mark : Mark} {m : Match} (h : Completed p s mark m) {index : Nat}
    (hindex : index ∈ (p.step s.step).captures) : m.Owes ⟨mark, index⟩ := by
  obtain ⟨k, hk⟩ := Array.getElem?_of_mem (h.captured index hindex)
  exact ⟨k, by rw [h.unused]; exact Nat.zero_le k, hk⟩

/-- Entering a node leaves no match of the pattern in progress, and completes the one that begins
there. -/
theorem Quiet.enter (h : p.Singles pattern) {r : Run} (hr : r.Quiet pattern) (place : Place) :
    (r.enter p place).1.Quiet pattern ∧ (∀ m ∈ r.finished, m ∈ (r.enter p place).1.finished)
      ∧ ∀ s ∈ startsAt p place, s.pattern = pattern → ∀ index ∈ (p.step s.step).captures,
        (r.enter p place).1.Owes ⟨place.mark, index⟩ := by
  have hkept : ∀ m ∈ r.finished, m ∈ (r.enter p place).1.finished :=
    fun m hm => List.mem_append_left _ hm
  have hmet : ofPattern pattern ((List.map (meet p place) (beginAll p place r.active)).flatMap (·.1))
      = _ := ofPattern_flatMap_meet place _
  rcases ofPattern_beginAll h place hr with ⟨hnone, hstarts⟩ | ⟨s, honly, hs, hsingle, hone⟩
  · rw [hnone, List.flatMap_nil] at hmet
    obtain ⟨hquiet, -⟩ := settle_singles (p := p) [] (by simp) (by simp) _ [] (Nat.le_refl _) hmet ofPattern_nil
    exact ⟨hquiet, hkept, fun s hs hpattern => absurd hpattern (hstarts s hs)⟩
  · obtain ⟨m, hm, hcompleted⟩ := meet_fresh hsingle
    rw [hone, List.flatMap_singleton, hm] at hmet
    obtain ⟨hquiet, hfinished⟩ := settle_singles [m] (Nat.le_refl 1) (fun m' hm' => by
        rw [List.mem_singleton.mp hm']
        exact ⟨hcompleted.pattern.trans hs, hcompleted.stop, hcompleted.unrivalled⟩) _ []
      (Nat.le_refl _) hmet ofPattern_nil
    refine ⟨hquiet, hkept, fun s' hs' hpattern index hindex => ?_⟩
    obtain rfl := honly s' hs' hpattern
    refine ⟨m, List.mem_append_right _ (hfinished m (.inl (List.mem_singleton_self m))), ?_⟩
    exact hcompleted.owes hindex

theorem Quiet.leave {r : Run} (hr : r.Quiet pattern) (depth : Nat) :
    (r.leave p depth).1.Quiet pattern
      ∧ ∀ m ∈ r.finished, m ∈ (r.leave p depth).1.finished := by
  refine ⟨?_, fun m hm => List.mem_append_left _ hm⟩
  have hactive := ofPattern_eq_nil.mp hr
  exact ofPattern_eq_nil.mpr fun m hm => hactive m (List.mem_filter.mp hm).1

/-- Entering the place begins a match of the pattern that has the capture. -/
def Captures (p : Program) (pattern : Nat) (c : Capture) (place : Place) : Prop :=
  c.mark = place.mark ∧ ∃ s ∈ startsAt p place, s.pattern = pattern
    ∧ c.index ∈ (p.step s.step).captures

theorem Quiet.handle (h : p.Singles pattern) {r : Run} (hr : r.Quiet pattern) (e : Event) :
    (r.handle p e).1.Quiet pattern ∧ (∀ m ∈ r.finished, m ∈ (r.handle p e).1.finished)
      ∧ ∀ c place, e = .enter place → Captures p pattern c place → (r.handle p e).1.Owes c := by
  cases e with
  | enter place =>
    obtain ⟨hquiet, hkept, howes⟩ := hr.enter h place
    refine ⟨hquiet, hkept, ?_⟩
    rintro ⟨mark, index⟩ place' heq ⟨rfl, s, hs, hpattern, hindex⟩
    obtain rfl : place = place' := Event.enter.inj heq
    exact howes s hs hpattern index hindex
  | leave depth =>
    obtain ⟨hquiet, hkept⟩ := hr.leave (p := p) depth
    exact ⟨hquiet, hkept, fun c place heq => by simp at heq⟩

/-- What is still to come of a capture: it is owed, or the place is still to be entered. -/
def Awaits (p : Program) (pattern : Nat) (c : Capture) (events : List Event) (r : Run) : Prop :=
  r.Owes c ∨ ∃ place, .enter place ∈ events ∧ Captures p pattern c place

theorem Quiet.proceed (h : p.Singles pattern) (c : Capture) (events : List Event) :
    ∀ {r : Run}, r.Quiet pattern → (proceed p events r).2.1.Quiet pattern
      ∧ (Awaits p pattern c events r →
        Awaits p pattern c (proceed p events r).1 (proceed p events r).2.1)
      ∧ ((proceed p events r).2.2 = false → (proceed p events r).1 = []) := by
  induction events with
  | nil =>
    intro r _
    refine ⟨rfl, fun hawaits => ?_, fun _ => rfl⟩
    exact hawaits.imp_right fun ⟨place, hmem, _⟩ => by simp at hmem
  | cons e rest ih =>
    intro r hr
    obtain ⟨hquiet, hkept, howes⟩ := hr.handle h e
    have hnext : Awaits p pattern c (e :: rest) r → Awaits p pattern c rest (r.handle p e).1 := by
      rintro (⟨m, hm, hm'⟩ | ⟨place, hmem, hcaptures⟩)
      · exact .inl ⟨m, hkept m hm, hm'⟩
      · rcases List.mem_cons.mp hmem with heq | hmem
        · exact .inl (howes c place heq.symm hcaptures)
        · exact .inr ⟨place, hmem, hcaptures⟩
    unfold Run.proceed
    simp only
    split
    · exact ⟨rfl, hnext, fun _ => rfl⟩
    · split
      · exact ⟨hquiet, hnext, by simp⟩
      · obtain ⟨hlater, hawaits, hend⟩ := ih hquiet
        exact ⟨hlater, fun h => hawaits (hnext h), hend⟩

/-! ## Handing out captures -/

/-- Dropping captures that are never handed out leaves the others owed. -/
theorem owes_skipEmpty {c : Capture} (hc : endsAtStart c.mark = false) (fuel : Nat) :
    ∀ {m : Match}, m.Owes c → (skipEmpty fuel m).Owes c := by
  induction fuel with
  | zero => exact fun h => h
  | succ fuel ih =>
    rintro m ⟨k, hk, hcapture⟩
    rw [skipEmpty]
    split
    · next c' hnext =>
      split
      · next hends =>
        refine ih ⟨k, ?_, hcapture⟩
        refine Nat.lt_of_le_of_ne hk fun heq => ?_
        have hsame : some c' = some c := by rw [← hnext, nextCapture?, heq, hcapture]
        obtain rfl := Option.some.inj hsame
        exact absurd (hends.symm.trans hc) (by simp)
      · exact ⟨k, hk, hcapture⟩
    · exact ⟨k, hk, hcapture⟩

/-- Handing out a capture of a match leaves the others owed. -/
theorem owes_consume {c : Capture} {m : Match} (h : m.Owes c) (r : Run) :
    nextCapture? m = some c ∨ (consume r m).1.Owes c := by
  obtain ⟨k, hk, hcapture⟩ := h
  by_cases heq : m.consumed = k
  · left
    rw [nextCapture?, heq, hcapture]
  · right
    rw [consume]
    split
    · exact ⟨k, by show m.consumed + 1 ≤ k; omega, hcapture⟩
    · exact ⟨k, by show m.consumed + 1 ≤ k; omega, hcapture⟩

theorem pattern_skipEmpty (fuel : Nat) : ∀ m : Match, (skipEmpty fuel m).pattern = m.pattern := by
  induction fuel with
  | zero => exact fun m => rfl
  | succ fuel ih =>
    intro m
    rw [skipEmpty]
    split
    · split
      · exact ih _
      · rfl
    · rfl

theorem pattern_consume (r : Run) (m : Match) : (consume r m).1.pattern = m.pattern := by
  rw [consume]
  split
  · rfl
  · rfl

theorem Quiet.release {r : Run} (hr : r.Quiet pattern) : (release p r).2.Quiet pattern := by
  have hactive : ∀ m ∈ r.active.map skipped, m.pattern ≠ pattern := by
    intro m hm
    obtain ⟨m', hm', rfl⟩ := List.mem_map.mp hm
    rw [skipped, pattern_skipEmpty]
    exact ofPattern_eq_nil.mp hr m' hm'
  rw [Run.release]
  simp only
  generalize r.active.map skipped = active at hactive
  have hquiet := ofPattern_eq_nil.mpr hactive
  split
  · next i turn _ =>
    rw [Quiet]
    show ofPattern pattern (consume _ _).2.active = []
    rw [consume]
    split
    · exact hquiet
    · exact hquiet
  · split
    · next i turn hearliest =>
      split
      · obtain ⟨m, hm, -⟩ := turn?_of_earliest hearliest
        refine ofPattern_eq_nil.mpr fun m' hm' => ?_
        rcases List.mem_or_eq_of_mem_set hm' with hm' | rfl
        · exact hactive m' hm'
        · rw [pattern_consume, List.getD_eq_getElem?_getD, hm, Option.getD_some]
          exact hactive m (List.mem_of_getElem? hm)
      · exact hquiet
    · exact hquiet

/-- A capture that is owed is handed out or stays owed. -/
theorem Owes.release {c : Capture} (hc : endsAtStart c.mark = false) {r : Run} (h : r.Owes c) :
    (∃ m, (release p r).1 = some (m, c)) ∨ (release p r).2.Owes c := by
  obtain ⟨m, hm, howes⟩ : ∃ m ∈ (r.finished.map skipped).filter fun m => m.consumed < m.captures.size,
      m.Owes c := by
    obtain ⟨m, hm, howes⟩ := h
    have hskipped := owes_skipEmpty hc m.captures.size howes
    refine ⟨skipped m, List.mem_filter.mpr ⟨List.mem_map_of_mem hm, ?_⟩, hskipped⟩
    obtain ⟨k, hk, hcapture⟩ := hskipped
    obtain ⟨hlt, -⟩ := Array.getElem?_eq_some_iff.mp hcapture
    exact decide_eq_true (Nat.lt_of_le_of_lt hk hlt)
  rw [Run.release]
  simp only
  generalize (r.finished.map skipped).filter (fun m => m.consumed < m.captures.size) = finished at hm
  generalize r.active.map skipped = active
  split
  · next i turn hearliest =>
    obtain ⟨m₁, hm₁, -⟩ := turn?_of_earliest hearliest
    rw [List.getD_eq_getElem?_getD, hm₁, Option.getD_some]
    obtain ⟨j, hj⟩ := List.getElem?_of_mem hm
    by_cases hij : i = j
    · obtain rfl : m₁ = m := by
        rw [hij, hj] at hm₁
        exact (Option.some.inj hm₁).symm
      rcases owes_consume howes { r with active, finished } with hnext | hleft
      · exact .inl ⟨_, by rw [hnext]; rfl⟩
      · refine .inr ⟨_, List.mem_of_getElem? (i := i) ?_, hleft⟩
        obtain ⟨hlt, -⟩ := List.getElem?_eq_some_iff.mp hm₁
        rw [List.getElem?_set_self hlt]
    · refine .inr ⟨m, List.mem_of_getElem? (i := j) ?_, howes⟩
      rw [List.getElem?_set_ne hij, hj]
  · split
    · next i turn _ =>
      split
      · refine .inr ⟨m, ?_, howes⟩
        show m ∈ (consume _ _).2.finished
        rw [consume]
        split
        · exact hm
        · exact hm
      · exact .inr ⟨m, hm, howes⟩
    · exact .inr ⟨m, hm, howes⟩

theorem Quiet.awaits_of_release {r r' : Run} (hr : r.Quiet pattern) {c : Capture}
    (hc : endsAtStart c.mark = false) (hreleased : Run.release p r = (none, r'))
    {events : List Event} :
    r'.Quiet pattern ∧ (Awaits p pattern c events r → Awaits p pattern c events r') := by
  have hquiet := hr.release (p := p)
  rw [hreleased] at hquiet
  refine ⟨hquiet, fun hawaits => hawaits.imp_left fun howes => ?_⟩
  rcases howes.release (p := p) hc with ⟨m, hout⟩ | hleft
  · rw [hreleased] at hout
    simp at hout
  · rw [hreleased] at hleft
    exact hleft

/-- **What a run awaits is handed out in the end**, if no match is refused. -/
theorem mem_collect (h : p.Singles pattern) {accepts : Match → Bool} (haccepts : ∀ m, accepts m = true)
    {c : Capture} (hc : endsAtStart c.mark = false) {events : List Event} {r : Run}
    {seen : List Capture} (hr : r.Quiet pattern) (hawaits : c ∈ seen ∨ Awaits p pattern c events r) :
    c ∈ collect p accepts events r seen := by
  fun_induction collect p accepts events r seen with
  | case1 events r seen m c' r' hreleased _ ih =>
    have hquiet := hr.release (p := p)
    rw [hreleased] at hquiet
    refine ih hquiet ?_
    rcases hawaits with hseen | howes | hplace
    · exact .inl (List.mem_cons_of_mem _ hseen)
    · rcases howes.release (p := p) hc with ⟨m', hout⟩ | hleft
      · rw [hreleased] at hout
        obtain ⟨-, rfl⟩ := Prod.mk.inj (Option.some.inj hout)
        exact .inl (List.mem_cons_self ..)
      · rw [hreleased] at hleft
        exact .inr (.inl hleft)
    · exact .inr (.inr hplace)
  | case2 events r seen m c' r' _ hrefused => exact absurd (haccepts m) hrefused
  | case3 events r seen r' hreleased events' r'' found hgone hover =>
    obtain ⟨hquiet, hleft⟩ := hr.awaits_of_release hc hreleased
    obtain ⟨-, hstill, hend⟩ := hquiet.proceed h c events
    rw [hgone] at hstill hend
    simp only [Bool.and_eq_true, Bool.not_eq_true', List.isEmpty_iff] at hover
    -- in the end there are no events left, and nothing is owed
    rcases hawaits with hseen | hawaits
    · exact List.mem_reverse.mpr hseen
    · rcases hstill (hleft hawaits) with ⟨m, hm, -⟩ | ⟨place, hmem, -⟩
      · rw [hover.2] at hm
        simp at hm
      · rw [hend hover.1] at hmem
        simp at hmem
  | case4 events r seen r' hreleased events' r'' found hgone _ ih =>
    obtain ⟨hquiet, hleft⟩ := hr.awaits_of_release hc hreleased
    obtain ⟨hquiet', hstill, -⟩ := hquiet.proceed h c events
    rw [hgone] at hquiet' hstill
    exact ih hquiet' (hawaits.imp_right fun hawaits => hstill (hleft hawaits))

end Run

/-! ## All captures -/

theorem mem_addLeavings {e : Event} {depth next : Nat} {seen : List Event} (h : e ∈ seen) :
    e ∈ addLeavings depth next seen := by
  rw [addLeavings]
  induction (List.range (depth + 1)).drop next with
  | nil => exact h
  | cons d ds ih => exact List.mem_cons_of_mem _ ih

/-- Every place is entered. -/
theorem enter_mem_eventsFrom {place : Place} {places : List Place} : ∀ {seen : List Event},
    place ∈ places ∨ .enter place ∈ seen → .enter place ∈ eventsFrom places seen := by
  induction places with
  | nil => exact fun h => by simpa [eventsFrom] using h
  | cons q rest ih =>
    intro seen h
    have hentered : .enter place ∈ Event.enter q :: seen ∨ place ∈ rest := by
      rcases h with h | h
      · rcases List.mem_cons.mp h with rfl | h
        · exact .inl (List.mem_cons_self ..)
        · exact .inr h
      · exact .inl (List.mem_cons_of_mem _ h)
    cases rest with
    | nil =>
      rw [eventsFrom, List.mem_reverse]
      exact mem_addLeavings (hentered.resolve_right (by simp))
    | cons q' rest =>
      rw [eventsFrom]
      exact ih (hentered.symm.imp_right mem_addLeavings)

/-- **A query without conditions captures every node that a pattern of single nodes asks for.**  Nothing
is captured at the very start of the text, though, and neither is what is below a node that ends
there. -/
theorem mem_captures_of_single {q : Query} {pattern : Nat} (h : q.program.Singles pattern)
    (hconditions : ∀ cs ∈ q.conditions, cs = []) {lang : Language} {t : Tree} {place : Place}
    (hplace : place ∈ t.places lang) (hends : Run.endsAtStart place.mark = false)
    (hparent : ∀ mark symbol, place.parent = some (mark, symbol) → Run.endsAtStart mark = false)
    {s : Start} (hs : (place.symbol, s) ∈ q.program.atSymbol) (hpattern : s.pattern = pattern)
    {index : Nat} (hindex : index ∈ (q.program.step s.step).captures) (text : List Char) :
    ⟨place.mark, index⟩ ∈ q.captures lang t text := by
  rw [captures]
  refine Run.mem_collect h (fun m => ?_) hends Run.ofPattern_nil (.inr (.inr ⟨place, ?_, rfl, s, ?_,
    hpattern, hindex⟩))
  · have hnone : q.conditions.getD m.pattern [] = [] := by
      rw [Array.getD_eq_getD_getElem?]
      cases hcs : q.conditions[m.pattern]? with
      | none => rfl
      | some cs => exact hconditions cs (Array.mem_of_getElem? hcs)
    rw [accepts, hnone]
    rfl
  · exact enter_mem_eventsFrom (.inl hplace)
  · have hsingle : q.program.IsSingle place.symbol s := h.single _ hs hpattern
    refine List.mem_filter.mpr ⟨List.mem_append_right _ ?_, ?_⟩
    · exact List.mem_map.mpr ⟨_, List.mem_filter.mpr ⟨hs, by simp⟩, rfl⟩
    · cases hp : place.parent with
      | none => simp [Run.mayBegin, hp, hsingle.rooted, hsingle.depth, hsingle.field]
      | some x =>
        simp [Run.mayBegin, hp, hparent x.1 x.2 hp, hsingle.rooted, hsingle.depth, hsingle.field]

end Query

end SyntaxKit
