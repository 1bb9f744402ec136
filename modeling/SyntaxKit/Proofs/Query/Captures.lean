import Mathlib.Data.List.TakeDrop
import SyntaxKit.Proofs.Query.Places
import SyntaxKit.Highlight

/-!
# What a query captures

A run of a query captures nothing but nodes that it enters and their parents.  So a condition on the
marks of all places holds of every capture that is handed out (`Query.forall_captures`), whatever the
query: each step of a run keeps it for the matches in progress and for those that are finished
(`Query.Run.Holds`).
-/

namespace SyntaxKit

namespace Query

variable {P : Mark → Prop}

/-- The captured nodes of a match satisfy a condition. -/
def Match.Holds (P : Mark → Prop) (m : Match) : Prop := ∀ c ∈ m.captures, P c.mark

/-- The captured nodes of all matches of a run satisfy a condition. -/
structure Run.Holds (P : Mark → Prop) (r : Run) : Prop where
  active : ∀ m ∈ r.active, m.Holds P
  finished : ∀ m ∈ r.finished, m.Holds P

/-- The marks of the place that is entered, if one is, satisfy a condition. -/
def Event.Marks (P : Mark → Prop) : Event → Prop
  | .enter place => place.Marks P
  | .leave _ => True

/-! ## Single matches -/

/-- Only the captures matter. -/
theorem Match.Holds.congr {m m' : Match} (h : m.Holds P) (hcaptures : m'.captures = m.captures) :
    m'.Holds P := by
  rw [Match.Holds, hcaptures]
  exact h

theorem Match.holds_default : (default : Match).Holds P := by
  intro c hc
  exact absurd hc (Array.not_mem_empty c)

namespace Run

variable (p : Program)

/-! ## Entering a node -/

/-- A match is put in one place, unless there is one of its pattern with the same root already. -/
theorem insertMatch_spec (m : Match) (active : List Match) :
    (insertMatch m active = active ∧ ∃ other ∈ active, other.pattern = m.pattern)
      ∨ ∃ before after, active = before ++ after
        ∧ insertMatch m active = before ++ m :: after := by
  have hsplit : ∀ q : Match → Bool, active = (active.reverse.span q).2.reverse
      ++ (active.reverse.span q).1.reverse := by
    intro q
    rw [← List.reverse_append, List.span_eq_takeWhile_dropWhile, List.takeWhile_append_dropWhile,
      List.reverse_reverse]
  rw [insertMatch]
  simp only
  generalize hparts : List.span _ active.reverse = parts
  have hactive : active = parts.2.reverse ++ parts.1.reverse := hparts ▸ hsplit _
  obtain ⟨after, before⟩ := parts
  simp only at hactive ⊢
  cases before with
  | nil => exact .inr ⟨[], after.reverse, by simpa using hactive, rfl⟩
  | cons other before =>
    simp only
    split
    · next hsame =>
      refine .inl ⟨rfl, other, ?_, ?_⟩
      · rw [hactive]
        simp
      · simp only [Bool.and_eq_true, beq_iff_eq] at hsame
        exact hsame.2
    · exact .inr ⟨_, _, hactive, rfl⟩

theorem mem_insertMatch {m m' : Match} {active : List Match} (h : m' ∈ insertMatch m active) :
    m' = m ∨ m' ∈ active := by
  rcases insertMatch_spec m active with ⟨heq, -⟩ | ⟨before, after, rfl, heq⟩
  · exact .inr (heq ▸ h)
  · rw [heq, List.mem_append, List.mem_cons] at h
    rw [List.mem_append]
    rcases h with h | h | h
    · exact .inr (.inl h)
    · exact .inl h
    · exact .inr (.inr h)

theorem holds_begin (place : Place) {active : List Match} (h : ∀ m ∈ active, m.Holds P)
    (s : Start) : ∀ m ∈ begin p place active s, m.Holds P := by
  intro m hm
  have hnew : ∀ {m : Match}, m.captures = #[] → m.Holds P := by
    intro m hnone c hc
    rw [hnone] at hc
    simp at hc
  rw [begin] at hm
  split at hm
  · rcases List.mem_append.mp hm with hm | hm
    · exact h m hm
    · obtain rfl := List.mem_singleton.mp hm
      exact hnew rfl
  · rcases mem_insertMatch hm with rfl | hm
    · exact hnew rfl
    · exact h m hm

theorem holds_beginAll (place : Place) {active : List Match} (h : ∀ m ∈ active, m.Holds P) :
    ∀ m ∈ beginAll p place active, m.Holds P := by
  rw [beginAll]
  generalize List.filter _ _ = starts
  induction starts generalizing active with
  | nil => exact h
  | cons s starts ih => exact ih (holds_begin p place h s)

/-- Taking alternatives leaves everything of a match as it is but where it waits. -/
theorem exists_of_mem_branch (fuel : Nat) : ∀ {m m' : Match}, m' ∈ branch p fuel m →
    ∃ step immediate, m' = { m with step, immediate } := by
  induction fuel with
  | zero =>
    intro m m' h
    exact ⟨m.step, m.immediate, List.mem_singleton.mp h⟩
  | succ fuel ih =>
    intro m m' h
    have hself : ∃ step immediate, m = { m with step, immediate } := ⟨m.step, m.immediate, rfl⟩
    have halternative : ∀ step immediate, m' ∈ branch p fuel { m with step, immediate } →
        ∃ step immediate, m' = { m with step, immediate } := by
      intro step immediate h
      obtain ⟨step', immediate', rfl⟩ := ih h
      exact ⟨step', immediate', rfl⟩
    rw [branch] at h
    simp only at h
    split at h
    · rw [List.mem_singleton.mp h]
      exact hself
    · split at h
      · exact halternative _ _ h
      · rcases List.mem_append.mp h with h | h
        · exact halternative _ _ h
        · exact halternative _ _ h
      · rcases List.mem_cons.mp h with rfl | h
        · exact hself
        · exact halternative _ _ h

/-- What becomes of a match when a node is entered: it is one of the same pattern, and has captured
nothing but that node and its parent. -/
structure Follows (place : Place) (m m' : Match) : Prop where
  pattern : m'.pattern = m.pattern
  captures : ∀ c ∈ m'.captures, c ∈ m.captures ∨ c.mark = place.mark
    ∨ ∃ symbol, place.parent = some (c.mark, symbol)

theorem Follows.of_same {place : Place} {m m' : Match} (hpattern : m'.pattern = m.pattern)
    (hcaptures : m'.captures = m.captures) : Follows place m m' :=
  ⟨hpattern, fun _ hc => .inl (hcaptures ▸ hc)⟩

/-- Capturing a node adds nothing but that node. -/
theorem mem_captures_capture {m : Match} {indices : List Nat} {mark : Mark} {c : Capture}
    (h : c ∈ (m.capture indices mark).captures) : c ∈ m.captures ∨ c.mark = mark := by
  rw [Match.capture] at h
  simp only at h
  generalize m.captures = captures at h ⊢
  induction indices generalizing captures with
  | nil => exact .inl h
  | cons i indices ih =>
    rcases ih _ h with h | h
    · rcases Array.mem_push.mp h with h | rfl
      · exact .inl h
      · exact .inr rfl
    · exact .inr h

theorem follows_advance {place : Place} {s : Step} {m m' : Match}
    (h : advance p place s m = some m') : Follows place m m' := by
  rw [advance] at h
  simp only [Option.map_eq_some_iff] at h
  obtain ⟨met, hmet, rfl⟩ := h
  have hfollows : Follows place m met := by
    split at hmet
    · obtain ⟨⟨mark, symbol⟩, hparent, rfl⟩ := Option.map_eq_some_iff.mp hmet
      refine ⟨rfl, fun c hc => ?_⟩
      rcases mem_captures_capture hc with hc | hc
      · exact .inl hc
      · exact .inr (.inr ⟨symbol, hc ▸ hparent⟩)
    · obtain rfl := Option.some.inj hmet
      exact .of_same rfl rfl
  refine ⟨hfollows.pattern, fun c hc => ?_⟩
  rcases mem_captures_capture hc with hc | hc
  · exact hfollows.captures c hc
  · exact .inr (.inl hc)

theorem follows_meet {place : Place} {m m' : Match} (h : m' ∈ (meet p place m).1) :
    Follows place m m' := by
  -- the match itself, if it goes on waiting
  have hwaiting : ∀ (waits : Bool) {again : Match}, again.pattern = m.pattern →
      again.captures = m.captures → m' ∈ (if waits then [again] else []) → Follows place m m' := by
    intro waits again hpattern hcaptures h
    split at h
    · rw [List.mem_singleton.mp h]
      exact .of_same hpattern hcaptures
    · simp at h
  rw [meet] at h
  simp only at h
  split at h
  · rw [List.mem_singleton.mp h]
    exact .of_same rfl rfl
  · split at h
    · refine hwaiting _ ?_ ?_ h
      · rfl
      · rfl
    · split at h
      · refine hwaiting _ ?_ ?_ h
        · rfl
        · rfl
      · next advanced hadvance =>
        rcases List.mem_append.mp h with h | h
        · obtain ⟨step, immediate, rfl⟩ := exists_of_mem_branch p _ h
          obtain ⟨hpattern, hcaptures⟩ := follows_advance p hadvance
          exact ⟨hpattern, hcaptures⟩
        · refine hwaiting _ ?_ ?_ h
          · rfl
          · rfl

theorem holds_meet {place : Place} (hplace : place.Marks P) {m : Match} (h : m.Holds P) :
    ∀ m' ∈ (meet p place m).1, m'.Holds P := by
  intro m' hm' c hc
  rcases (follows_meet p hm').captures c hc with hc | hc | ⟨symbol, hparent⟩
  · exact h c hc
  · rw [hc]
    exact hplace.own
  · exact hplace.parent _ symbol hparent

theorem holds_compareWith {rest : List Match} (hrest : ∀ other ∈ rest, other.Holds P) :
    ∀ {m : Match}, m.Holds P → (∀ m', (compareWith m rest).1 = some m' → m'.Holds P)
      ∧ ∀ other ∈ (compareWith m rest).2, other.Holds P := by
  induction rest with
  | nil =>
    intro m h
    refine ⟨fun m' hm' => ?_, by simp [compareWith]⟩
    obtain rfl := Option.some.inj hm'
    exact h
  | cons other rest ih =>
    intro m h
    obtain ⟨hother, hrest⟩ := List.forall_mem_cons.mp hrest
    -- whatever is marked as having a rival keeps its captures
    have hrivalled : ∀ (marked : Bool) {m : Match}, m.Holds P →
        (if marked then { m with rivalled := true } else m).Holds P := by
      intro marked m h
      split
      · exact h
      · exact h
    rw [compareWith]
    split
    · refine ⟨fun m' hm' => ?_, List.forall_mem_cons.mpr ⟨hother, hrest⟩⟩
      obtain rfl := Option.some.inj hm'
      exact h
    · generalize m.compareCaptures other = both
      obtain ⟨contains, contained⟩ := both
      simp only
      split
      · exact ih hrest h
      · split
        · exact ⟨by simp, List.forall_mem_cons.mpr ⟨hrivalled contains hother, hrest⟩⟩
        · obtain ⟨hkept, hothers⟩ := ih hrest (hrivalled contained h)
          exact ⟨hkept, List.forall_mem_cons.mpr ⟨hrivalled contains hother, hothers⟩⟩

theorem holds_settle (fuel : Nat) : ∀ {active kept finished : List Match},
    (∀ m ∈ active, m.Holds P) → (∀ m ∈ kept, m.Holds P) → (∀ m ∈ finished, m.Holds P) →
    (∀ m ∈ (settle p fuel active kept finished).1, m.Holds P)
      ∧ ∀ m ∈ (settle p fuel active kept finished).2, m.Holds P := by
  have hreverse : ∀ {ms : List Match}, (∀ m ∈ ms, m.Holds P) → ∀ m ∈ ms.reverse, m.Holds P :=
    fun h m hm => h m (List.mem_reverse.mp hm)
  induction fuel with
  | zero =>
    intro active kept finished hactive hkept hfinished
    exact ⟨List.forall_mem_append.mpr ⟨hreverse hkept, hactive⟩, hreverse hfinished⟩
  | succ fuel ih =>
    intro active kept finished hactive hkept hfinished
    cases active with
    | nil => exact ⟨hreverse hkept, hreverse hfinished⟩
    | cons m rest =>
      obtain ⟨hm, hrest⟩ := List.forall_mem_cons.mp hactive
      obtain ⟨hself, hothers⟩ := holds_compareWith hrest hm
      rw [settle]
      split
      · next rest' heq =>
        rw [heq] at hothers
        exact ih hothers hkept hfinished
      · next m' rest' heq =>
        rw [heq] at hself hothers
        split
        · exact ih hothers hkept (List.forall_mem_cons.mpr ⟨hself m' rfl, hfinished⟩)
        · exact ih hothers (List.forall_mem_cons.mpr ⟨hself m' rfl, hkept⟩) hfinished

/-! ## The way through the tree -/

theorem Holds.enter {r : Run} (h : r.Holds P) {place : Place} (hplace : place.Marks P) :
    (r.enter p place).1.Holds P := by
  have hmet : ∀ m ∈ ((beginAll p place r.active).map (meet p place)).flatMap (·.1), m.Holds P := by
    intro m hm
    obtain ⟨met, hmet, hm⟩ := List.mem_flatMap.mp hm
    obtain ⟨m', hm', rfl⟩ := List.mem_map.mp hmet
    exact holds_meet p hplace (holds_beginAll p place h.active m' hm') m hm
  obtain ⟨hactive, hfinished⟩ := holds_settle p
    (((beginAll p place r.active).map (meet p place)).flatMap (·.1)).length hmet
    (show ∀ m ∈ ([] : List Match), m.Holds P by simp)
    (show ∀ m ∈ ([] : List Match), m.Holds P by simp)
  exact ⟨hactive, List.forall_mem_append.mpr ⟨h.finished, hfinished⟩⟩

theorem Holds.leave {r : Run} (h : r.Holds P) (depth : Nat) : (r.leave p depth).1.Holds P where
  active := fun m hm => h.active m (List.mem_filter.mp hm).1
  finished := List.forall_mem_append.mpr
    ⟨h.finished, fun m hm => h.active m (List.mem_filter.mp hm).1⟩

theorem Holds.handle {r : Run} (h : r.Holds P) {e : Event} (he : e.Marks P) :
    (r.handle p e).1.Holds P := by
  cases e with
  | enter place => exact h.enter p he
  | leave depth => exact h.leave p depth

theorem Holds.proceed {events : List Event} (hevents : ∀ e ∈ events, e.Marks P) :
    ∀ {r : Run}, r.Holds P → (proceed p events r).2.1.Holds P
      ∧ ∀ e ∈ (proceed p events r).1, e.Marks P := by
  induction events with
  | nil => exact fun {r} h => ⟨⟨by simp [Run.proceed], h.finished⟩, by simp [Run.proceed]⟩
  | cons e rest ih =>
    intro r h
    obtain ⟨he, hrest⟩ := List.forall_mem_cons.mp hevents
    have hr' := h.handle p he
    unfold Run.proceed
    simp only
    split
    · exact ⟨⟨by simp, hr'.finished⟩, by simp⟩
    · split
      · exact ⟨hr', hrest⟩
      · exact ih hrest hr'

/-! ## Handing out captures -/

theorem holds_skipEmpty (fuel : Nat) : ∀ {m : Match}, m.Holds P → (skipEmpty fuel m).Holds P := by
  induction fuel with
  | zero => exact fun h => h
  | succ fuel ih =>
    intro m h
    rw [skipEmpty]
    split
    · split
      · exact ih (h.congr rfl)
      · exact h
    · exact h

theorem holds_skipped {ms : List Match} (h : ∀ m ∈ ms, m.Holds P) :
    ∀ m ∈ ms.map skipped, m.Holds P := by
  intro m hm
  obtain ⟨m', hm', rfl⟩ := List.mem_map.mp hm
  exact holds_skipEmpty _ (h m' hm')

theorem holds_nextCapture {m : Match} (h : m.Holds P) {c : Capture}
    (hc : nextCapture? m = some c) : P c.mark :=
  h c (Array.mem_of_getElem? hc)

theorem holds_getD {ms : List Match} (h : ∀ m ∈ ms, m.Holds P) (i : Nat) :
    (ms.getD i default).Holds P := by
  rw [List.getD_eq_getElem?_getD]
  cases hi : ms[i]? with
  | none => exact Match.holds_default
  | some m => exact h m (List.mem_of_getElem? hi)

theorem holds_set {ms : List Match} (h : ∀ m ∈ ms, m.Holds P) (i : Nat) {m : Match}
    (hm : m.Holds P) : ∀ m' ∈ ms.set i m, m'.Holds P := by
  intro m' hm'
  rcases List.mem_or_eq_of_mem_set hm' with hm' | rfl
  · exact h m' hm'
  · exact hm

theorem Holds.consume {r : Run} (h : r.Holds P) {m : Match} (hm : m.Holds P) :
    (consume r m).1.Holds P ∧ (consume r m).2.Holds P := by
  rw [Run.consume]
  split
  · exact ⟨hm, h⟩
  · exact ⟨hm, h.active, h.finished⟩

/-- What is handed out, and what is left. -/
theorem Holds.release {r : Run} (h : r.Holds P) : (release p r).2.Holds P
    ∧ ∀ m c, (release p r).1 = some (m, c) → P c.mark := by
  have hactive := holds_skipped h.active
  have hfinished : ∀ m ∈ (r.finished.map skipped).filter fun m => m.consumed < m.captures.size,
      m.Holds P := fun m hm => holds_skipped h.finished m (List.mem_filter.mp hm).1
  rw [Run.release]
  simp only
  generalize (r.finished.map skipped).filter (fun m => m.consumed < m.captures.size) = finished
    at hfinished
  generalize r.active.map skipped = active at hactive
  have hleft : (({ r with active, finished } : Run)).Holds P := ⟨hactive, hfinished⟩
  -- the match whose capture is handed out is put back
  have hcapture : ∀ {m m' : Match}, m.Holds P → ∀ m'' c,
      (nextCapture? m).map (m', ·) = some (m'', c) → P c.mark := by
    intro m m' hm m'' c hc
    obtain ⟨c', hc', heq⟩ := Option.map_eq_some_iff.mp hc
    obtain ⟨-, rfl⟩ := Prod.mk.inj heq
    exact holds_nextCapture hm hc'
  split
  · next i turn _ =>
    have hm := holds_getD hfinished i
    obtain ⟨hput, hrun⟩ := hleft.consume hm
    exact ⟨⟨hrun.active, holds_set hfinished i hput⟩, hcapture hm⟩
  · split
    · next i turn _ =>
      have hm := holds_getD hactive i
      obtain ⟨hput, hrun⟩ := hleft.consume hm
      split
      · exact ⟨⟨holds_set hactive i hput, hrun.finished⟩, hcapture hm⟩
      · exact ⟨hleft, by simp⟩
    · exact ⟨hleft, by simp⟩

theorem Holds.remove {r : Run} (h : r.Holds P) (id : Option Nat) : (r.remove id).Holds P := by
  rw [Run.remove]
  split
  · exact ⟨h.active, fun m hm => h.finished m (List.mem_of_mem_eraseIdx hm)⟩
  · split
    · exact ⟨fun m hm => h.active m (List.mem_of_mem_eraseIdx hm), h.finished⟩
    · exact h

theorem holds_collect (accepts : Match → Bool) {events : List Event} {r : Run}
    {seen : List Capture} (hevents : ∀ e ∈ events, e.Marks P) (h : r.Holds P)
    (hseen : ∀ c ∈ seen, P c.mark) : ∀ c ∈ collect p accepts events r seen, P c.mark := by
  fun_induction collect p accepts events r seen with
  | case1 events r seen m c r' hreleased _ ih =>
    obtain ⟨hleft, hout⟩ := h.release p
    rw [hreleased] at hleft hout
    exact ih hevents hleft (List.forall_mem_cons.mpr ⟨hout m c rfl, hseen⟩)
  | case2 events r seen m c r' hreleased _ ih =>
    obtain ⟨hleft, -⟩ := h.release p
    rw [hreleased] at hleft
    exact ih hevents (hleft.remove m.id) hseen
  | case3 => exact fun c hc => hseen c (List.mem_reverse.mp hc)
  | case4 events r seen r' hreleased events' r'' found hgone _ ih =>
    obtain ⟨hleft, -⟩ := h.release p
    rw [hreleased] at hleft
    obtain ⟨hrun, hrest⟩ := Holds.proceed p hevents hleft
    rw [hgone] at hrun hrest
    exact ih hrest hrun hseen

end Run

/-! ## All captures -/

theorem marks_addLeavings (depth next : Nat) {seen : List Event} (h : ∀ e ∈ seen, e.Marks P) :
    ∀ e ∈ addLeavings depth next seen, e.Marks P := by
  rw [addLeavings]
  induction (List.range (depth + 1)).drop next with
  | nil => exact h
  | cons d ds ih => exact List.forall_mem_cons.mpr ⟨trivial, ih⟩

theorem marks_eventsFrom {places : List Place} (hplaces : ∀ q ∈ places, q.Marks P) :
    ∀ {seen : List Event}, (∀ e ∈ seen, e.Marks P) → ∀ e ∈ eventsFrom places seen, e.Marks P := by
  induction places with
  | nil =>
    intro seen hseen e he
    exact hseen e (by simpa [eventsFrom] using he)
  | cons q rest ih =>
    intro seen hseen
    obtain ⟨hq, hrest⟩ := List.forall_mem_cons.mp hplaces
    have hentered : ∀ e ∈ Event.enter q :: seen, e.Marks P :=
      List.forall_mem_cons.mpr ⟨hq, hseen⟩
    cases rest with
    | nil =>
      intro e he
      rw [eventsFrom, List.mem_reverse] at he
      exact marks_addLeavings _ _ hentered e he
    | cons q' rest =>
      rw [eventsFrom]
      exact ih hrest (marks_addLeavings _ _ hentered)

/-- **A query captures nothing but places of the tree.** -/
theorem forall_captures (q : Query) (lang : Language) (t : Tree) (text : List Char)
    (hplaces : ∀ place ∈ t.places lang, place.Marks P) :
    ∀ c ∈ q.captures lang t text, P c.mark := by
  rw [captures]
  exact Run.holds_collect _ _ (marks_eventsFrom hplaces (by simp)) ⟨by simp, by simp⟩ (by simp)

end Query

/-- **Every span that a query highlights begins and ends where the leaves of the tree may**, whatever the
query. -/
theorem Tree.Consistent.stretch_highlight {lang : Language} {p : Nat → Prop} {t : Tree}
    (h : t.Consistent lang) (haligned : t.Aligned (Tree.Ends p) 0) (q : Query) (text : List Char) :
    ∀ s ∈ q.highlight lang t text, Tree.Stretch p s.start s.stop := by
  intro s hs
  obtain ⟨c, hc, rfl⟩ := List.mem_map.mp hs
  exact q.forall_captures lang t text (h.marks_places haligned) c hc

end SyntaxKit
