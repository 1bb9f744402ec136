import SyntaxKit.Proofs.Parse.Recover

/-!
# Entering recovery keeps to the law

Before a reading recovers, the reductions that any token allows are made, a missing token may be
inserted, and the readings that are in recovery at the same place are joined.  Through all of this
the reading concerned stays as far on in the text as it was, so that it may still wait with the token
it could not use.
-/

namespace SyntaxKit

namespace Parse

variable {L : Law} {env : Setting} {p : Parse}

/-! ## Missing tokens -/

/-- A missing token is pushed on a copy of a reading. -/
theorem Sound.forkMissing (hL : L.Recovers env) (h : p.Sound L) {v : Nat}
    (hactive : (p.stack.head v).status = .active) {token first : Nat} (htoken : 1 ≤ token)
    (hlt : token < env.lang.tokenCount)
    (hnext : env.lang.nextState (p.stack.state v) token ≠ 0)
    (hmoves : env.lang.nextState (p.stack.state v) token ≠ p.stack.state v)
    (hreduces : env.lang.reducesOn (env.lang.nextState (p.stack.state v) token) first = true)
    (looked : Nat) :
    let missing := Tree.missingToken token Extent.zero looked
    let p' := p.onStack fun s => (s.fork v).push env.lang p.stack.count (some missing) false
      (env.lang.nextState (p.stack.state v) token)
    p'.Sound L ∧ Stack.Kept p.stack.count p.stack p'.stack
      ∧ p'.stack.count = p.stack.count + 1
      ∧ (p'.stack.head p.stack.count).status = .active
      ∧ p'.stack.Placed L p.stack.count := by
  intro missing p'
  obtain ⟨live, hs⟩ := h.stack
  obtain ⟨hstep, htops⟩ := @hL.missing _ _ _ looked (h.stands (v := v) (by simp [hactive]))
    htoken hlt hnext hmoves hreduces
  have hfork := hs.fork v
  have hhead : (p.stack.fork v).head p.stack.count = { p.stack.head v with summary := none } := by
    rw [Stack.fork, Stack.head_addHead, if_pos rfl]
  have hactive' : ((p.stack.fork v).head p.stack.count).status = .active := by
    rw [hhead]
    exact hactive
  have hspot : (p.stack.fork v).spot p.stack.count = p.stack.spot v := by
    rw [Stack.spot, Stack.top, hhead]
    rfl
  have hpushed := hfork.push env.lang hactive' (some missing) false
    (env.lang.nextState (p.stack.state v) token) (by rw [hspot]; exact hstep) (by simp)
  have hkept := Stack.kept_addHead p.stack { p.stack.head v with summary := none }
  have hcount : p'.stack.count = p.stack.count + 1 := by
    show ((p.stack.fork v).push _ _ _ _ _).count = _
    rw [Stack.count_push, Stack.fork, Stack.count_addHead]
  refine ⟨h.onStack ⟨_, hpushed⟩, hkept.trans (Stack.kept_push _ env.lang (Nat.le_refl _)
    hkept.count (some missing) false _), hcount, (Stack.status_push ..).trans hactive',
    fun w hw hlt _ => ?_⟩
  obtain rfl : w = p.stack.count := by omega
  show L.tops (((p.stack.fork v).push _ _ _ _ _).spot _)
  rw [Stack.spot_push _ env.lang (by rw [Stack.fork, Stack.count_addHead]; omega), hspot]
  exact htops

/-- What trying to insert a missing token leaves: the readings that were there are as they were, and
the others go on where they may. -/
structure Inserted (L : Law) (p p' : Parse) : Prop where
  sound : p'.Sound L
  kept : Stack.Kept p.stack.count p.stack p'.stack
  active : ∀ w, p.stack.count ≤ w → (p'.stack.head w).status = .active
  placed : p'.stack.Placed L p.stack.count

theorem Inserted.refl (h : p.Sound L) : Inserted L p p where
  sound := h
  kept := .refl (Nat.le_refl _)
  active _ hw := Stack.active_of_le hw
  placed _ hw hlt := absurd hlt (Nat.not_lt.mpr hw)

theorem Inserted.trans {p' p'' : Parse} (h : Inserted L p p') (h' : Inserted L p' p'') :
    Inserted L p p'' := by
  obtain ⟨live, hs⟩ := h.sound.stack
  refine ⟨h'.sound, h.kept.trans (h'.kept.mono h.kept.count), fun w hw => ?_,
    h.placed.of_kept hs h'.kept (Nat.le_refl _) h'.placed⟩
  by_cases hlt : w < p'.stack.count
  · exact (h'.kept.heads w hlt).2.trans (h.active w hw)
  · exact h'.active w (Nat.le_of_not_lt hlt)

/-- **Inserting a missing token keeps to the law.** -/
theorem insertMissing_spec (hL : L.Recovers env) {v : Nat} {lookahead : Tree} (left : Nat) :
    ∀ (token : Nat) {p : Parse}, 1 ≤ token → token + left ≤ env.lang.tokenCount → p.Sound L →
      v < p.stack.count → (p.stack.head v).status = .active →
      Inserted L p (insertMissing env v lookahead left token p).1 := by
  induction left with
  | zero => exact fun _ _ _ _ h _ _ => .refl h
  | succ left ih =>
    intro token p htoken hlt h hv hactive
    rw [insertMissing]
    simp only
    split
    · exact ih _ (by omega) (by omega) h hv hactive
    · next hmoves =>
      simp only [Bool.or_eq_true, decide_eq_true_eq, not_or] at hmoves
      split
      · next hreduces =>
        obtain ⟨hsound, hkept, hcount, hnew, hplaced⟩ := h.forkMissing hL hactive htoken (by omega)
          hmoves.1 hmoves.2 hreduces (lookahead.totalSize.bytes + lookahead.lookahead)
        generalize hforked : (p.onStack fun s => (s.fork v).push env.lang p.stack.count
          (some (Tree.missingToken token Extent.zero
            (lookahead.totalSize.bytes + lookahead.lookahead))) false
          (env.lang.nextState (p.stack.state v) token)) = p₁ at hsound hkept hcount hnew hplaced
        have hactive₁ : ∀ w, p.stack.count ≤ w → (p₁.stack.head w).status = .active := by
          intro w hw
          by_cases heq : w = p.stack.count
          · rw [heq]
            exact hnew
          · exact Stack.active_of_le (by omega)
        obtain ⟨hsound₂, hsteady, hplaced₂⟩ := hsound.reduceOn hL.toReducing
          (v := p.stack.count) (by omega) hactive₁ hplaced lookahead.firstSymbol
        have hinserted : Inserted L p (p₁.reduceOn env p.stack.count lookahead.firstSymbol).1 :=
          ⟨hsound₂, hkept.trans (hsteady.kept (Nat.le_refl _)), hsteady.active, hplaced₂⟩
        split
        · next p₂ heq =>
          rw [heq] at hinserted
          exact hinserted
        · next p₂ heq =>
          rw [heq] at hinserted
          exact hinserted.trans (ih (token + 1) (by omega) (by omega) hinserted.sound
            (Nat.lt_of_lt_of_le hv hinserted.kept.count)
            ((hinserted.kept.heads v hv).2.trans hactive))
      · exact ih _ (by omega) (by omega) h hv hactive

/-! ## Entering recovery -/

/-- What putting some readings into recovery leaves: these have been marked, the others that were
there are as they were, and the new ones go on where they may. -/
structure Marked (L : Law) (vs : List Nat) (p p' : Parse) : Prop
    extends Stack.Extends p.stack p'.stack where
  sound : p'.Sound L
  count : p.stack.count ≤ p'.stack.count
  others : ∀ w < p.stack.count, w ∉ vs → Stack.SameHead p.stack p'.stack w
  marked : ∀ v ∈ vs, (p'.stack.head v).status = .active
    ∧ p'.stack.spot v = (p.stack.spot v).reach none ParseState.recovering
  active : ∀ w, p.stack.count ≤ w → (p'.stack.head w).status = .active
  placed : p'.stack.Placed L p.stack.count

theorem Marked.refl (h : p.Sound L) : Marked L [] p p where
  toExtends := .refl p.stack
  sound := h
  count := Nat.le_refl _
  others _ _ _ := ⟨rfl, rfl⟩
  marked := by simp
  active _ hw := Stack.active_of_le hw
  placed _ hw hlt := absurd hlt (Nat.not_lt.mpr hw)

/-- A reading stays marked while others are added. -/
theorem Marked.inserted {vs : List Nat} {p' p'' : Parse} (h : Marked L vs p p')
    (hvs : ∀ v ∈ vs, v < p.stack.count) (h' : Inserted L p' p'') : Marked L vs p p'' := by
  obtain ⟨live, hs⟩ := h.sound.stack
  refine {
    toExtends := h.toExtends.trans h'.kept.toExtends
    sound := h'.sound
    count := Nat.le_trans h.count h'.kept.count
    others := fun w hw hout =>
      (h.others w hw hout).trans (h'.kept.heads w (Nat.lt_of_lt_of_le hw h.count))
    marked := fun v hv => ?_
    active := fun w hw => ?_
    placed := h.placed.of_kept hs h'.kept (Nat.le_refl _) h'.placed }
  · obtain ⟨hstatus, hspot⟩ := h.marked v hv
    have hlt := Nat.lt_of_lt_of_le (hvs v hv) h.count
    exact ⟨(h'.kept.heads v hlt).2.trans hstatus,
      (h'.kept.spot_eq hs hlt (by simp [hstatus])).trans hspot⟩
  · by_cases hlt : w < p'.stack.count
    · exact (h'.kept.heads w hlt).2.trans (h.active w hw)
    · exact h'.active w (Nat.le_of_not_lt hlt)

/-- Marking one more reading that was there. -/
theorem Marked.push (env : Setting) {vs : List Nat} {p' : Parse} (h : Marked L vs p p') {v : Nat}
    (hv : v < p.stack.count) (hnew : v ∉ vs) (hactive : (p'.stack.head v).status = .active)
    (hspot : p'.stack.spot v = p.stack.spot v)
    (hstep : L.step (p.stack.spot v) none ((p.stack.spot v).reach none ParseState.recovering)) :
    Marked L (v :: vs) p (p'.onStack (·.push env.lang v none false ParseState.recovering)) := by
  obtain ⟨live, hs⟩ := h.sound.stack
  have hpushed := hs.push env.lang hactive none false ParseState.recovering
    (hspot.symm ▸ hstep) (by simp)
  have htouched := Stack.touched_push p'.stack env.lang v none false ParseState.recovering
  -- the other readings are where they were
  have hsame : ∀ w, w ≠ v → (p'.stack.head w).status ≠ .halted →
      (p'.stack.push env.lang v none false ParseState.recovering).spot w = p'.stack.spot w :=
    fun w hne hstatus => htouched.toExtends.spot (htouched.others w hne)
      (hs.bound _ ((hs.heads w id).top_live hstatus))
  refine {
    toExtends := h.toExtends.trans htouched.toExtends
    sound := h.sound.onStack ⟨_, hpushed⟩
    count := ?_
    others := fun w hw hout => ?_
    marked := fun w hw => ?_
    active := fun w hw => (Stack.status_push ..).trans (h.active w hw)
    placed := fun w hw hlt hstatus => ?_ }
  · show _ ≤ (p'.stack.push env.lang v none false ParseState.recovering).count
    rw [htouched.count]
    exact h.count
  · rw [List.mem_cons, not_or] at hout
    exact (h.others w hw hout.2).trans (htouched.others w hout.1)
  · rcases List.mem_cons.mp hw with rfl | hin
    · refine ⟨(Stack.status_push ..).trans hactive, ?_⟩
      exact (Stack.spot_push p'.stack env.lang (Nat.lt_of_lt_of_le hv h.count) ..).trans
        (by rw [hspot])
    · obtain ⟨hstatus, hw'⟩ := h.marked w hin
      refine ⟨(Stack.status_push ..).trans hstatus, ?_⟩
      exact (hsame w (fun heq => hnew (heq ▸ hin)) (by simp [hstatus])).trans hw'
  · have hstatus' := h.active w hw
    show L.tops ((p'.stack.push env.lang v none false ParseState.recovering).spot w)
    rw [hsame w (by omega) (by simp [hstatus'])]
    exact h.placed w hw (by simpa [Parse.onStack] using hlt) (by simp [hstatus'])

/-- **Putting readings into recovery keeps to the law.** -/
theorem enterRecovery_spec (hL : L.Recovers env) (lookahead : Tree)
    (htokens : 1 ≤ env.lang.tokenCount) (h : p.Sound L) (vs : List Nat) :
    ∀ {ds : List Nat} {p' : Parse} (done : Bool), Marked L ds p p' →
      (∀ v ∈ vs ++ ds, v < p.stack.count) → (vs ++ ds).Nodup →
      (∀ v ∈ vs, (p.stack.head v).status = .active
        ∧ L.step (p.stack.spot v) none ((p.stack.spot v).reach none ParseState.recovering)) →
      Marked L (vs.reverse ++ ds) p (enterRecovery env lookahead vs p' done) := by
  induction vs with
  | nil => exact fun _ hp' _ _ _ => hp'
  | cons v rest ih =>
    intro ds p' done hp' hlt hnodup hvs
    obtain ⟨live, hs⟩ := h.stack
    obtain ⟨hactive, hstep⟩ := hvs v (List.mem_cons_self ..)
    have hv := hlt v (List.mem_cons_self ..)
    obtain ⟨hnew, hnodup⟩ := List.nodup_cons.mp hnodup
    have hout : v ∉ ds := fun hin => hnew (List.mem_append.mpr (.inr hin))
    have hds : ∀ w ∈ ds, w < p.stack.count := fun w hw =>
      hlt w (List.mem_cons_of_mem _ (List.mem_append.mpr (.inr hw)))
    have hin : v < p'.stack.count := Nat.lt_of_lt_of_le hv hp'.count
    have hactive' := (hp'.others v hv hout).2.trans hactive
    have hinsert : ∀ inserted : Parse × Bool,
        inserted = (if done then (p', true)
          else insertMissing env v lookahead (env.lang.tokenCount - 1) 1 p') →
        Inserted L p' inserted.1 := by
      rintro _ rfl
      split
      · exact .refl hp'.sound
      · exact insertMissing_spec hL _ _ (Nat.le_refl _) (by omega) hp'.sound hin hactive'
    rw [enterRecovery]
    simp only
    have hinserted := hinsert _ rfl
    generalize (if done then (p', true)
      else insertMissing env v lookahead (env.lang.tokenCount - 1) 1 p') = inserted at hinserted
    have hmarked := hp'.inserted hds hinserted
    have hsame := hmarked.others v hv hout
    have hpushed := hmarked.push env hv hout (hsame.2.trans hactive)
      (hmarked.toExtends.spot hsame (hs.bound _ ((hs.heads v id).top_live (by simp [hactive]))))
      hstep
    have hrest := ih inserted.2 hpushed
      (fun w hw => hlt w (List.perm_middle.mem_iff.mp hw))
      ((List.perm_middle.nodup_iff).mpr (List.nodup_cons.mpr ⟨hnew, hnodup⟩))
      fun w hw => hvs w (List.mem_cons_of_mem _ hw)
    rwa [List.reverse_cons, List.append_assoc]

/-- What putting a reading and all that have come out of it into recovery leaves; before that there
is `p₁`. -/
structure Entered (L : Law) (v : Nat) (p p₁ p₂ : Parse) : Prop
    extends Stack.Extends p.stack p₂.stack where
  sound : p₂.Sound L
  before : p.stack.count ≤ p₁.stack.count
  count : p₁.stack.count ≤ p₂.stack.count
  others : ∀ w < p.stack.count, w ≠ v → Stack.SameHead p.stack p₂.stack w
  marked : ∀ w, p.stack.count ≤ w ∨ w = v → w < p₁.stack.count →
    (p₂.stack.head w).status = .active
      ∧ p₂.stack.spot w = (p₁.stack.spot w).reach none ParseState.recovering
  placed : p₂.stack.Placed L p₁.stack.count

/-- **Putting a reading and all that have come out of it into recovery keeps to the law** where the
mark may be set. -/
theorem Sound.enter (hL : L.Recovers env) (htokens : 1 ≤ env.lang.tokenCount) {p₁ : Parse} {v : Nat}
    (hv : v < p.stack.count) (hactive : (p.stack.head v).status = .active) (h : p₁.Sound L)
    (hsteady : Stack.Steady p.stack.count v p.stack p₁.stack)
    (hmark : ∀ w, p.stack.count ≤ w ∨ w = v → w < p₁.stack.count →
      L.step (p₁.stack.spot w) none ((p₁.stack.spot w).reach none ParseState.recovering))
    (t : Tree) :
    Entered L v p p₁ (enterRecovery env t (v :: List.range' p.stack.count
      (p₁.stack.count - p.stack.count)) p₁ false) := by
  have hcount := hsteady.count
  have hmem : ∀ w, w ∈ v :: List.range' p.stack.count (p₁.stack.count - p.stack.count)
      ↔ (p.stack.count ≤ w ∨ w = v) ∧ w < p₁.stack.count := by
    intro w
    rw [List.mem_cons, List.mem_range'_1]
    omega
  have hstatus : ∀ w, p.stack.count ≤ w ∨ w = v → (p₁.stack.head w).status = .active := by
    rintro w (hw | rfl)
    · exact hsteady.active w hw
    · exact (hsteady.status w hv).trans hactive
  have hmarked := enterRecovery_spec hL t htokens h
    (v :: List.range' p.stack.count (p₁.stack.count - p.stack.count)) false (.refl h)
    (fun w hw => ((hmem w).mp (by simpa using hw)).2)
    (by simpa [List.nodup_range', List.mem_range'_1] using fun hle => absurd hv (by omega))
    fun w hw => ⟨hstatus w ((hmem w).mp hw).1, hmark w ((hmem w).mp hw).1 ((hmem w).mp hw).2⟩
  exact {
    toExtends := hsteady.toExtends.trans hmarked.toExtends
    sound := hmarked.sound
    before := hcount
    count := hmarked.count
    others := fun w hw hne => (hsteady.heads w hw hne).trans (hmarked.others w (by omega) (by
      rw [List.append_nil, List.mem_reverse, hmem]
      omega))
    marked := fun w hw hlt => hmarked.marked w (by
      rw [List.append_nil, List.mem_reverse, hmem]
      exact ⟨hw, hlt⟩)
    placed := hmarked.placed }

theorem mergeRepeatedly_spec (env : Setting) (v : Nat) {i n : Nat} (hn : n ≤ i) (left : Nat) :
    ∀ {p : Parse}, p.Sound L → n ≤ p.stack.count → p.stack.Placed L n →
      (mergeRepeatedly env v i left p).Sound L
        ∧ Stack.Kept n p.stack (mergeRepeatedly env v i left p).stack
        ∧ (mergeRepeatedly env v i left p).stack.Placed L n := by
  induction left with
  | zero => exact fun h hcount hplaced => ⟨h, .refl hcount, hplaced⟩
  | succ left ih =>
    intro p h hcount hplaced
    rw [mergeRepeatedly]
    split
    · next stack hmerge =>
      obtain ⟨live, hs⟩ := h.stack
      obtain ⟨hs', hmerged⟩ := hs.merge hmerge
      have hkept := hmerged.kept hn hcount
      obtain ⟨hsound, hkept', hplaced'⟩ := ih (p := { p with stack }) (h.withStack ⟨live, hs'⟩)
        hkept.count (hplaced.merged hs hmerged)
      exact ⟨hsound, hkept.trans hkept', hplaced'⟩
    · exact ih h hcount hplaced

/-- Going down in the walk over the earlier tree stays within it. -/
theorem Spare.descend {w w' : Tree.Walk} (hw : Spare L w) (h : w.descend? = some w') :
    Spare L w' := by
  rw [Tree.Walk.descend?.eq_def] at h
  split at h
  · simp at h
  · next s above =>
    split at h
    · simp at h
    · next first right hchildren =>
      simp only [Option.some.injEq] at h
      subst h
      obtain ⟨hs, hbehind⟩ := hw
      obtain ⟨htotal, hfirst, hright⟩ := hchildren ▸ L.spare_children hs (by simp [hchildren])
      refine ⟨hfirst, hright, ?_⟩
      -- the last child ends where the node does
      have hend : s.offset + first.totalSize.bytes + (Tree.totalSizes right).bytes
          = s.offset + s.tree.totalSize.bytes := by
        rw [← htotal, Tree.totalSizes_cons, Extent.bytes_add, Nat.add_assoc]
      rw [hend]
      exact hbehind

theorem Spare.descendWhile (q : Tree → Bool) (fuel : Nat) :
    ∀ {w : Tree.Walk}, Spare L w → Spare L (Tree.Walk.descendWhile q fuel w) := by
  induction fuel with
  | zero => exact fun hw => hw
  | succ fuel ih =>
    intro w hw
    rw [Tree.Walk.descendWhile.eq_def]
    simp only
    split
    · exact hw
    · split
      · split
        · next w' hdescend => exact ih (hw.descend hdescend)
        · exact hw
      · exact hw

/-- Replacing a lookahead by its first part. -/
theorem Sound.breakDownLookahead (h : p.Sound L) {a : Extent} {t : Tree} (ht : L.waits a t)
    (state : ParseState) :
    (p.breakDownLookahead t state).1.Sound L
      ∧ (p.breakDownLookahead t state).1.stack = p.stack
      ∧ L.Part a (p.breakDownLookahead t state).2 :=
  ⟨⟨h.stack, h.cached, h.walk.descendWhile _ _, h.finished⟩, rfl, t, _, ht, rfl⟩

/-! ## Beginning recovery -/

/-- What is done in a reading once it is in recovery: the states to which it may go back are noted,
and the token is dealt with. -/
def recoverHere (env : Setting) (p : Parse) (v : Nat) (lookahead : Tree) : Parse :=
  let p := p.onStack (·.recordSummary v maxSummaryDepth)
  let (p, lookahead) :=
    if lookahead.isLeaf then (p, lookahead)
    else p.breakDownLookahead lookahead ParseState.recovering
  p.recover env v lookahead

theorem beginRecovery_eq (env : Setting) (p : Parse) (v : Nat) (t : Tree) :
    p.beginRecovery env v t
      = recoverHere env (mergeRepeatedly env v p.stack.count
          ((p.reduceOnAny env v).stack.count - p.stack.count)
          (enterRecovery env t (v :: List.range' p.stack.count
            ((p.reduceOnAny env v).stack.count - p.stack.count)) (p.reduceOnAny env v) false)) v t :=
  rfl

theorem Sound.recoverHere (hL : L.Recovers env) (h : p.Sound L) {v : Nat} (hv : v < p.stack.count)
    (hactive : (p.stack.head v).status = .active) {t : Tree} (ht : L.waits (p.stack.position v) t)
    (hpays : PaysFor L (p.stack.spot v) (p.stack.summarize v maxSummaryDepth)) :
    (Parse.recoverHere env p v t).Sound L
      ∧ Stack.Moved L v p.stack (Parse.recoverHere env p v t).stack := by
  obtain ⟨live, hs⟩ := h.stack
  have hsame : Stack.Same p.stack (p.stack.recordSummary v maxSummaryDepth) :=
    ⟨rfl, Stack.count_setHead .., Stack.SameHead.of_setHead rfl rfl⟩
  have hkept := hsame.kept (Nat.le_refl p.stack.count)
  have hnone : (p.stack.recordSummary v maxSummaryDepth).Placed L p.stack.count :=
    fun w hw hlt => absurd (hsame.count ▸ hlt) (Nat.not_lt.mpr hw)
  have hsound : (p.onStack (·.recordSummary v maxSummaryDepth)).Sound L :=
    h.onStack ⟨live, hs.retitle v rfl rfl⟩
  have hspot : (p.stack.recordSummary v maxSummaryDepth).spot v = p.stack.spot v :=
    hkept.spot_eq hs hv (by simp [hactive])
  have hsummary : ∀ summary, ((p.stack.recordSummary v maxSummaryDepth).head v).summary
      = some summary → summary = p.stack.summarize v maxSummaryDepth := by
    intro summary heq
    rw [Stack.recordSummary, Stack.head_setHead, if_pos ⟨rfl, hv⟩] at heq
    exact (Option.some.inj heq).symm
  -- the reading recovers where its summary has been noted
  have hgo : ∀ {p' : Parse} {u : Tree}, p'.Sound L →
      p'.stack = p.stack.recordSummary v maxSummaryDepth → L.Part (p.stack.position v) u →
      (p'.recover env v u).Sound L ∧ Stack.Moved L v p.stack (p'.recover env v u).stack := by
    intro p' u hp' hstack hu
    obtain ⟨live', hs'⟩ := hp'.stack
    obtain ⟨hdone, hmoved⟩ := hp'.recover hL (v := v) (t := u)
      (by rw [hstack]; exact Nat.lt_of_lt_of_le hv hkept.count)
      (by rw [hstack]; exact (hkept.heads v hv).2.trans hactive)
      (by rw [hstack, ← Stack.position_spot, hspot]; exact hu)
      (by
        rw [hstack, hspot]
        intro summary heq
        rw [hsummary summary heq]
        exact hpays)
    exact ⟨hdone, .of_kept (hstack ▸ hkept) hs' (hstack ▸ hnone) hmoved⟩
  rw [Parse.recoverHere]
  simp only
  split
  · exact hgo hsound rfl (Law.part_of_waits ht)
  · obtain ⟨hsound', hstack', hpart⟩ := hsound.breakDownLookahead ht ParseState.recovering
    exact hgo hsound' hstack' hpart

/-- **Beginning recovery keeps to the law.** -/
theorem Sound.beginRecovery (hL : L.Enters env) (htokens : 1 ≤ env.lang.tokenCount)
    (h : p.Sound L) {v : Nat} (hv : v < p.stack.count) (hactive : (p.stack.head v).status = .active)
    (htops : L.tops (p.stack.spot v)) {t : Tree} (ht : L.waits (p.stack.position v) t) :
    (p.beginRecovery env v t).Sound L
      ∧ Stack.Moved L v p.stack (p.beginRecovery env v t).stack := by
  obtain ⟨live, hs⟩ := h.stack
  rw [beginRecovery_eq]
  obtain ⟨hsound₁, hsteady₁, hplaced₁⟩ := h.reduceOnAny hL.toReducing hactive htops
  generalize p.reduceOnAny env v = p₁ at hsound₁ hsteady₁ hplaced₁
  have hactive₁ : ∀ w, p.stack.count ≤ w ∨ w = v → (p₁.stack.head w).status = .active := by
    rintro w (hw | rfl)
    · exact hsteady₁.active w hw
    · exact (hsteady₁.status w hv).trans hactive
  have hmark := fun w hw hlt => hL.mark (hsound₁.stands (v := w) (by simp [hactive₁ w hw]))
    (hplaced₁ w hw hlt)
  have hentered := Sound.enter hL.toRecovers htokens hv hactive hsound₁ hsteady₁
    (fun w hw hlt => (hmark w hw hlt).1) t
  generalize enterRecovery env t (v :: List.range' p.stack.count (p₁.stack.count - p.stack.count))
    p₁ false = p₂ at hentered
  have hmoved₂ : Stack.Moved L v p.stack p₂.stack := {
    toExtends := hentered.toExtends
    count := Nat.le_trans hentered.before hentered.count
    others := hentered.others
    placed := fun w hw hlt hstatus => by
      by_cases hold : w < p₁.stack.count
      · rw [(hentered.marked w hw hold).2]
        exact (hmark w hw hold).2
      · exact hentered.placed w (Nat.le_of_not_lt hold) hlt hstatus }
  obtain ⟨hactive₂, hspot₂⟩ := hentered.marked v (.inr rfl) (Nat.lt_of_lt_of_le hv hentered.before)
  obtain ⟨live₂, hs₂⟩ := hentered.sound.stack
  obtain ⟨hsound₃, hkept₃, hplaced₃⟩ := mergeRepeatedly_spec (L := L) env v
    (Nat.le_refl p.stack.count) (p₁.stack.count - p.stack.count) hentered.sound hmoved₂.count
    fun w hw => hmoved₂.placed w (.inl hw)
  generalize mergeRepeatedly env v p.stack.count (p₁.stack.count - p.stack.count) p₂ = p₃
    at hsound₃ hkept₃ hplaced₃
  obtain ⟨live₃, hs₃⟩ := hsound₃.stack
  have hactive₃ := (hkept₃.heads v hv).2.trans hactive₂
  have hspot₃ := hkept₃.spot_eq hs₂ hv (by simp [hactive₂])
  -- the reading is as far on as it was, so that it may still wait
  have hbytes : (p₃.stack.position v).bytes = (p.stack.position v).bytes := by
    rw [← hsteady₁.bytes v hv (by simp [hactive]), ← Stack.position_spot, hspot₃, hspot₂]
    rfl
  have hmoved₃ := hmoved₂.kept hs₂ hkept₃ hplaced₃
  have htops₃ : L.tops (p₃.stack.spot v) :=
    hmoved₃.placed v (.inr rfl) (Nat.lt_of_lt_of_le hv hkept₃.count) (by simp [hactive₃])
  obtain ⟨hdone, hmoved₄⟩ := hsound₃.recoverHere hL.toRecovers
    (Nat.lt_of_lt_of_le hv hkept₃.count) hactive₃
    (L.waits_congr ht (hsound₃.stands (v := v) (by simp [hactive₃])) hbytes)
    (paysFor_of_tops htops₃ _)
  exact ⟨hdone, hmoved₃.trans hs₃ hmoved₄⟩

end Parse

end SyntaxKit
