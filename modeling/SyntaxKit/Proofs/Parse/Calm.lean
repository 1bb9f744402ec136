import SyntaxKit.Proofs.Parse.Noted

/-!
# Trees without cost come from readings that have met no error

As long as no recovery has begun, no reading has met an error; then, when the readings have been
compared, all of them go on or all of them wait, because one that goes on is preferred to one that
waits.  If recovery begins, the other readings are dropped, and from then on all readings have paid.

When recovery begins in a reading that has met no error, it has paid when it goes on
(`Parse.Sound.beginFirst`).  The readings that come out of its reductions have met no error either,
so all of them enter recovery at the same place and are joined into one; that one goes back, and pays,
or skips a token, and pays.

So a law that readings without errors keep to holds of all complete trees that cost nothing
(`Parse.whole_or_pos_of_rounds`).
-/

namespace SyntaxKit

/-! ## Laws that say more -/

/-- What is within one law is within another one, but for where readings may stand. -/
structure Law.Within (L L' : Law) : Prop where
  stands : ∀ {a}, L.stands a → L'.stands a
  step : ∀ {a t b}, L.step a t b → L'.step a t b
  waits : ∀ {p t}, L.waits p t → L'.waits p t
  divides : ∀ {t}, L.divides t → L'.divides t
  spare : ∀ {offset t}, L.spare offset t → L'.spare offset t
  whole : ∀ {t}, L.whole t → L'.whole t

/-- Two laws of what is charged differ in nothing but where readings may stand. -/
theorem Law.within_charged {lang : Language} {g : Grammar.Listed} {text : List Char}
    {keeps : Tree → Prop} {tops : Spot → Prop} (tops' : Spot → Prop) :
    (Law.charged lang g text keeps tops).Within (Law.charged lang g text keeps tops') :=
  ⟨id, id, id, id, id, id⟩

namespace Stack

variable {L L' : Law} {live : Nat → Prop} {s : Stack}

theorem Sound.within (hs : Sound L live s) (h : L.Within L') : Sound L' live s where
  bound := hs.bound
  origin := hs.origin
  stands i hi := h.stands (hs.stands i hi)
  links i hi l hl := by
    obtain ⟨hbelow, hstep, hdivides⟩ := hs.links i hi l hl
    exact ⟨hbelow, h.step hstep, fun t hpending ht => h.divides (hdivides t hpending ht)⟩
  bottom := hs.bottom
  heads v hv := by
    have hhead := hs.heads v hv
    rw [HeadSound] at hhead ⊢
    split at hhead
    · exact hhead
    · exact ⟨hhead.1, h.waits hhead.2⟩
    · trivial

end Stack

namespace Parse

variable {L L' : Law} {p : Parse}

theorem Behind.within (h : L.Within L') {w : Tree.Walk} :
    ∀ {offset : Nat}, Behind L offset w → Behind L' offset w := by
  induction w with
  | nil => exact fun _ => trivial
  | cons s above ih =>
    intro offset hbehind
    refine ⟨Tree.eachAt_iff.mpr fun front t back hsplit => ?_, ih hbehind.2⟩
    exact h.spare (Tree.eachAt_iff.mp hbehind.1 front t back hsplit)

theorem Sound.within (hp : p.Sound L) (h : L.Within L') : p.Sound L' where
  stack := hp.stack.imp fun _ hs => hs.within h
  cached offset t ht := by
    obtain ⟨a, ha, hbytes, hwaits⟩ := hp.cached offset t ht
    exact ⟨a, h.stands ha, hbytes, h.waits hwaits⟩
  walk := by
    have hwalk := hp.walk
    cases hw : p.walk with
    | nil => trivial
    | cons s above =>
      rw [hw] at hwalk
      exact ⟨h.spare hwalk.1, hwalk.2.within h⟩
  finished t ht := h.whole (hp.finished t ht)

/-! ## Joining all readings -/

/-- Readings that stand where another one stands are all joined into it. -/
theorem mergeRepeatedly_all (env : Setting) {v i : Nat} (hv : v < i) (left : Nat) :
    ∀ {p : Parse}, p.Sound L → i + left ≤ p.stack.count →
      (p.stack.head v).status = .active →
      (∀ w, i ≤ w → w < i + left → (p.stack.head w).status = .active
        ∧ (p.stack.spot w).state = (p.stack.spot v).state
        ∧ (p.stack.spot w).position.bytes = (p.stack.spot v).position.bytes
        ∧ (p.stack.spot w).cost = (p.stack.spot v).cost) →
      let p' := mergeRepeatedly env v i left p
      p'.Sound L ∧ Stack.Extends p.stack p'.stack ∧ p'.stack.count + left = p.stack.count
        ∧ ∀ w, (p'.stack.head w).top = (p.stack.head (if w < i then w else w + left)).top
          ∧ (p'.stack.head w).status = (p.stack.head (if w < i then w else w + left)).status := by
  induction left with
  | zero => exact fun h _ _ _ => ⟨h, .refl _, rfl, fun w => by simp [mergeRepeatedly]⟩
  | succ left ih =>
    intro p h hcount hactive hmatch
    obtain ⟨hactive', hstate, hbytes, hcost⟩ := hmatch i (Nat.le_refl _) (by omega)
    obtain ⟨stack, hmerge⟩ : ∃ stack, p.stack.merge? env.lang v i = some stack := by
      have hcan : p.stack.canMerge v i = true := by
        simp only [Stack.canMerge, Stack.isActive, hactive, hactive', Stack.Vertex.matches, Bool.and_eq_true,
          beq_iff_eq]
        exact ⟨⟨trivial, trivial⟩, ⟨hstate.symm, hbytes.symm⟩, hcost.symm⟩
      simp [Stack.merge?, hcan]
    obtain ⟨live, hs⟩ := h.stack
    obtain ⟨hs', hmerged⟩ := hs.merge hmerge
    have hcount' := hmerged.count
    rw [if_pos (by omega)] at hcount'
    have hspot : ∀ w, (p.stack.head (if w < i then w else w + 1)).status = .active →
        stack.spot w = p.stack.spot (if w < i then w else w + 1) := by
      intro w hw
      rw [Stack.spot, Stack.spot, Stack.top, Stack.top, (hmerged.heads w).1]
      exact hmerged.spots _ (hs.bound _ ((hs.heads _ id).top_live (by simp [hw])))
    have hv' := hmerged.heads v
    have hspotv := hspot v (by rwa [if_pos hv])
    rw [if_pos hv] at hv' hspotv
    obtain ⟨hsound, hextends, hleft, hheads⟩ := ih (p := { p with stack }) (h.withStack ⟨live, hs'⟩)
      (by show i + left ≤ stack.count; omega) (hv'.2.trans hactive) fun w hw hlt => by
        obtain ⟨hactive'', hsame⟩ := hmatch (w + 1) (by omega) (by omega)
        have hw' := hspot w (by rwa [if_neg (Nat.not_lt.mpr hw)])
        rw [if_neg (Nat.not_lt.mpr hw)] at hw'
        refine ⟨?_, ?_⟩
        · rw [(hmerged.heads w).2, if_neg (Nat.not_lt.mpr hw)]
          exact hactive''
        · show (stack.spot w).state = (stack.spot v).state ∧ _
          rw [hspotv, hw']
          exact hsame
    rw [mergeRepeatedly, hmerge]
    simp only
    refine ⟨hsound, hmerged.toExtends.trans hextends, ?_, fun w => ?_⟩
    · change _ + left = stack.count at hleft
      omega
    · rw [(hheads w).1, (hheads w).2]
      change (stack.head _).top = _ ∧ (stack.head _).status = _
      rw [(hmerged.heads _).1, (hmerged.heads _).2]
      by_cases hw : w < i
      · simp [hw]
      · rw [if_neg hw, if_neg hw, if_neg (by omega)]
        exact ⟨rfl, rfl⟩

/-! ## Beginning recovery for the first time -/

section First

variable {g : Grammar.Listed} {text : List Char} {env : Setting} {keeps : Tree → Prop}

/-- **Whoever begins recovery for the first time has paid for it.** -/
theorem Sound.beginFirst (hlang : env.lang.Orderly) (hlossless : env.lang.Lossless)
    (hsource : env.source = Source.ofText text) (hgen : env.lang.Generated g)
    (hclosing : env.lang.Closing)
    (h : p.Sound (Law.charged env.lang g text keeps Spot.Charged)) {v : Nat}
    (hv : v < p.stack.count) (hactive : (p.stack.head v).status = .active)
    (hcalm : (p.stack.spot v).Calm) {t : Tree}
    (ht : (Law.charged env.lang g text keeps Spot.Charged).waits (p.stack.position v) t) :
    (p.beginRecovery env v t).Sound (Law.charged env.lang g text keeps Spot.Charged)
      ∧ Stack.Moved (Law.charged env.lang g text keeps Spot.Charged) v p.stack
        (p.beginRecovery env v t).stack := by
  have hrecovers : (Law.charged env.lang g text keeps Spot.Charged).Recovers env :=
    Law.recovers_charged hlang hlossless hsource hgen hclosing
  rw [beginRecovery_eq]
  -- all readings that come out of reductions have met no error, and are as far on
  obtain ⟨hsound₁, hsteady₁, hcalm₁⟩ := (h.within (Law.within_charged fun a =>
      a.Calm ∧ a.position.bytes = (p.stack.position v).bytes)).reduceOnAny
    (Law.reducing_calm hlang hlossless hsource hgen hclosing _) hactive ⟨hcalm, rfl⟩
  replace hsound₁ := hsound₁.within (Law.within_charged Spot.Charged)
  generalize p.reduceOnAny env v = p₁ at hsound₁ hsteady₁ hcalm₁
  have hentered := hsound₁.enter hrecovers hlang.someToken hv hactive hsteady₁ (fun w hw hlt => by
    obtain ⟨⟨-, hstate⟩, -⟩ := hcalm₁ w hw hlt
    have hstands := hsound₁.stands (v := w) (by
      rcases hw with hw | rfl
      · simp [hsteady₁.active w hw]
      · simp [hsteady₁.status w hv, hactive])
    exact ⟨(Law.closed_derived hlang hlossless hsource hgen).mark hstands, fun _ _ => hstate,
      by simp⟩) t
  generalize enterRecovery env t (v :: List.range' p.stack.count (p₁.stack.count - p.stack.count))
    p₁ false = p₂ at hentered
  have hin : v < p₁.stack.count := Nat.lt_of_lt_of_le hv hentered.before
  obtain ⟨hactive₂, hspot₂⟩ := hentered.marked v (.inr rfl) hin
  -- so all of them are joined
  have hbefore := hentered.before
  have hcount := hentered.count
  obtain ⟨hsound₃, hextends₃, hcount₃, hheads₃⟩ := mergeRepeatedly_all env hv
    (p₁.stack.count - p.stack.count) hentered.sound (by omega) hactive₂ fun w hw hlt => by
      obtain ⟨hactive', hspot'⟩ := hentered.marked w (.inl hw) (by omega)
      obtain ⟨⟨hcost, -⟩, hbytes⟩ := hcalm₁ w (.inl hw) (by omega)
      obtain ⟨⟨hcost', -⟩, hbytes'⟩ := hcalm₁ v (.inr rfl) hin
      rw [hspot', hspot₂]
      exact ⟨hactive', rfl, hbytes.trans hbytes'.symm, hcost.trans hcost'.symm⟩
  generalize mergeRepeatedly env v p.stack.count (p₁.stack.count - p.stack.count) p₂ = p₃
    at hsound₃ hextends₃ hcount₃ hheads₃
  obtain ⟨live₂, hs₂⟩ := hentered.sound.stack
  obtain ⟨live₃, hs₃⟩ := hsound₃.stack
  have hspot₃ : ∀ w, (p₃.stack.head w).status ≠ .halted → p₃.stack.spot w
      = p₂.stack.spot (if w < p.stack.count then w else w + (p₁.stack.count - p.stack.count)) := by
    intro w hw
    rw [(hheads₃ w).2] at hw
    rw [Stack.spot, Stack.spot, Stack.top, Stack.top, (hheads₃ w).1]
    exact hextends₃.spots _ (hs₂.bound _ ((hs₂.heads _ id).top_live hw))
  have hhead₃ := hheads₃ v
  rw [if_pos hv] at hhead₃
  have hactive₃ := hhead₃.2.trans hactive₂
  have hspotv := hspot₃ v (by simp [hactive₃])
  rw [if_pos hv, hspot₂] at hspotv
  obtain ⟨⟨hcost, -⟩, hbytes⟩ := hcalm₁ v (.inr rfl) hin
  have hplaced₃ : p₃.stack.Placed (Law.charged env.lang g text keeps Spot.Charged)
      p.stack.count := by
    intro w hw hlt hstatus
    have hspot := hspot₃ w hstatus
    rw [(hheads₃ w).2] at hstatus
    rw [if_neg (Nat.not_lt.mpr hw)] at hspot hstatus
    rw [hspot]
    exact hentered.placed _ (by omega) (by omega) hstatus
  obtain ⟨hdone, hmoved⟩ := hsound₃.recoverHere hrecovers (v := v) (t := t) (by omega) hactive₃
    (Law.waits_congr _ ht (hsound₃.stands (v := v) (by simp [hactive₃])) (by
      rw [hspotv]
      exact hbytes))
    (Stack.paysFor_summarize hs₃ (by simp [hactive₃]) (by rw [hspotv]; exact hcost)
      (by rw [hspotv]; rfl) _)
  refine ⟨hdone, hmoved.after (hentered.toExtends.trans hextends₃) (by omega) (fun w hw hne => ?_)
    hs₃ hplaced₃⟩
  have hsame := hheads₃ w
  rw [if_pos hw] at hsame
  exact (hentered.others w hw hne).trans hsame

end First

end Parse

/-! ## Readings that are alike -/

namespace Stack

variable {s s' : Stack}

/-- The first `n` readings all go on, or all of them wait. -/
def Alike (waits : Bool) (n : Nat) (s : Stack) : Prop :=
  ∀ w < n, (s.head w).status ≠ .halted ∧ s.isPaused w = waits

theorem isPaused_congr {v w : Nat} (h : (s'.head v).status = (s.head w).status) :
    s'.isPaused v = s.isPaused w := by
  rw [isPaused, isPaused, h]

/-- Readings are alike if each of them has the status of one of those that were alike. -/
theorem Alike.of_heads {waits : Bool} {n k : Nat} (h : s.Alike waits n)
    (hheads : ∀ w < k, ∃ u < n, (s'.head w).status = (s.head u).status) : s'.Alike waits k := by
  intro w hw
  obtain ⟨u, hu, hstatus⟩ := hheads w hw
  rw [hstatus, isPaused_congr hstatus]
  exact h u hu

theorem Same.alike (h : Same s s') {waits : Bool} {n : Nat} (halike : s.Alike waits n) :
    s'.Alike waits n :=
  halike.of_heads fun w hw => ⟨w, hw, (h.heads w).2⟩

theorem Same.merged {s₁ : Stack} (h : Same s s₁) {w : Nat} (h' : Merged w s₁ s') :
    Merged w s s' where
  toExtends := (Extends.of_vertices h.vertices).trans h'.toExtends
  count := by rw [h'.count, h.count]
  heads u := ⟨(h'.heads u).1.trans (h.heads _).1, (h'.heads u).2.trans (h.heads _).2⟩

/-- Readings before one that is struck off stay alike. -/
theorem Merged.alike {w : Nat} (h : Merged w s s') {waits : Bool} {n : Nat} (hn : n ≤ w)
    (halike : s.Alike waits n) : s'.Alike waits n := by
  refine halike.of_heads fun u hu => ⟨u, hu, ?_⟩
  rw [(h.heads u).2, if_pos (by omega)]

end Stack

namespace Parse

variable {L : Law} {env : Setting} {p : Parse}

/-! ## Comparing readings that have met no error -/

/-- How a reading stands that has met no error. -/
def Standing.Calm (waits : Bool) (m : Standing) : Prop :=
  m.cost = (if waits then prices.recovery + prices.skippedTree else 0) ∧ m.inError = waits

theorem standing_calm {v : Nat} (h : (p.stack.spot v).Calm) :
    (p.standing v).2.Calm (p.stack.isPaused v) := by
  obtain ⟨hcost, hstate⟩ := h
  have hstate : (p.stack.state v == ParseState.recovering) = false := by simpa using hstate
  have htop : ((p.stack.top v).state == ParseState.recovering) = false := hstate
  rw [Stack.cost_spot] at hcost
  refine ⟨?_, by simp [standing, hstate]⟩
  cases hpaused : p.stack.isPaused v <;> simp [standing, Stack.errorCost, hpaused, htop, hcost]

/-- One that goes on is taken, and of two that are alike neither. -/
theorem compare_calm {a b : Standing} {waits waits' : Bool} (ha : a.Calm waits)
    (hb : b.Calm waits') :
    a.compare b = if waits = waits' then .neither else if waits' then .takeLeft else .takeRight := by
  obtain ⟨hcost, herror⟩ := ha
  obtain ⟨hcost', herror'⟩ := hb
  cases waits <;> cases waits' <;>
    simp [Standing.compare, hcost, herror, hcost', herror', prices]

/-- What comparing a reading with one before it leads to, if they have met no error. -/
theorem pair_calm (h : p.Sound L) (env : Setting) {j i : Nat} {mine : Standing}
    {waits : Bool} (hcalm : (p.stack.spot j).Calm) (hmine : mine.Calm waits) :
    match p.pair env j i mine with
    | .gone p' => Stack.Merged i p.stack p'.stack
    | .both p' => Stack.Same p.stack p'.stack ∧ p.stack.isPaused j = waits
    | .earlierGone p' => Stack.Merged j p.stack p'.stack ∧ p.stack.isPaused j ≠ waits := by
  obtain ⟨hsound, hsame⟩ := h.standing j
  obtain ⟨live, hs⟩ := hsound.stack
  rw [pair]
  simp only
  rw [compare_calm (standing_calm hcalm) hmine]
  by_cases halike : p.stack.isPaused j = waits
  · rw [if_pos halike]
    simp only
    cases hmerge : (p.standing j).1.stack.merge? env.lang j i with
    | none => exact ⟨hsame, halike⟩
    | some stack => exact hsame.merged (hs.merge hmerge).2
  · rw [if_neg halike]
    cases waits with
    | true => exact hsame.merged (Stack.merged_remove _ i)
    | false => exact ⟨hsame.merged (Stack.merged_remove _ j), halike⟩

/-- Comparing a reading with those before it, which are alike, leaves readings that are alike, and one
less or one more that has been looked at. -/
theorem pairAll_alike (hcalm : ∀ {a}, L.tops a → a.Calm) (env : Setting) {mine : Standing}
    {waits : Bool} (hmine : mine.Calm waits) (fuel : Nat) :
    ∀ {j i : Nat} {p : Parse} {before : Bool}, p.Obeys L → i < p.stack.count → j ≤ i →
      i < fuel + j → p.stack.Alike before i → (0 < j → before = waits) →
      (p.stack.head i).status ≠ .halted → p.stack.isPaused i = waits →
      ∃ after, (pairAll env mine fuel j i p).1.stack.Alike after (pairAll env mine fuel j i p).2
        ∧ (pairAll env mine fuel j i p).2 ≤ (pairAll env mine fuel j i p).1.stack.count
        ∧ 2 * (pairAll env mine fuel j i p).1.stack.count + i
          < 2 * p.stack.count + (pairAll env mine fuel j i p).2 := by
  induction fuel with
  | zero => intros; omega
  | succ fuel ih =>
    intro j i p before h hi hji hfuel halike hdone hhalted hwaits
    rw [pairAll]
    split
    · next hend =>
      -- all readings before it have been found to be like it
      refine ⟨waits, fun w hw => ?_, hi, by simp only; omega⟩
      simp only at hw ⊢
      by_cases heq : w = i
      · subst heq
        exact ⟨hhalted, hwaits⟩
      · have hbefore := halike w (by omega)
        exact ⟨hbefore.1, hbefore.2.trans (hdone (by omega))⟩
    · next hj =>
      have hj : j < i := Nat.lt_of_not_le hj
      obtain ⟨hnot, hbefore⟩ := halike j hj
      have hpaired := pair_calm h.toSound env (i := i)
        (hcalm (h.placed j (Nat.zero_le j) (Nat.lt_trans hj hi) hnot)) hmine
      have hobeys := h.pair env (Nat.lt_trans hj hi) hi mine
      split
      · next p' heq =>
        rw [heq] at hpaired
        have hcount := hpaired.count
        rw [if_pos hi] at hcount
        exact ⟨before, hpaired.alike (Nat.le_refl i) halike, by simp only; omega,
          by simp only; omega⟩
      · next p' heq =>
        rw [heq] at hpaired hobeys
        obtain ⟨hsame, hlike⟩ := hpaired
        have hcount := hsame.count
        obtain ⟨after, hafter, hle, hlt⟩ := ih (j := j + 1) hobeys (by simpa [Paired.parse, hcount])
          (by omega) (by omega) (hsame.alike halike) (fun _ => hbefore.symm.trans hlike)
          ((hsame.heads i).2 ▸ hhalted) ((Stack.isPaused_congr (hsame.heads i).2).trans hwaits)
        exact ⟨after, hafter, hle, by simp only [Paired.parse] at hlt ⊢; omega⟩
      · next p' heq =>
        rw [heq] at hpaired hobeys
        obtain ⟨hmerged, hunlike⟩ := hpaired
        have hcount := hmerged.count
        rw [if_pos (by omega)] at hcount
        -- none before it has been found to be like it, so it comes to stand one place further ahead
        have hstatus := (hmerged.heads (i - 1)).2
        rw [if_neg (by omega), Nat.sub_add_cancel (by omega)] at hstatus
        obtain ⟨after, hafter, hle, hlt⟩ := ih (i := i - 1) hobeys
          (by simp only [Paired.parse]; omega) (by omega) (by omega)
          (halike.of_heads fun w hw =>
            ⟨if w < j then w else w + 1, by split <;> omega, (hmerged.heads w).2⟩)
          (fun hpos => absurd (hbefore.trans (hdone hpos)) hunlike)
          (hstatus ▸ hhalted) ((Stack.isPaused_congr hstatus).trans hwaits)
        exact ⟨after, hafter, hle, by simp only [Paired.parse] at hlt ⊢; omega⟩

/-- When all readings have been compared, they are alike. -/
theorem pairEach_alike (hcalm : ∀ {a}, L.tops a → a.Calm) (env : Setting) (fuel : Nat) :
    ∀ {i : Nat} {p : Parse} {least : Option Nat} {before : Bool}, p.Obeys L → i ≤ p.stack.count →
      2 * p.stack.count < fuel + i → p.stack.Alike before i →
      ∃ after, (pairEach env fuel i p least).1.stack.Alike after
        (pairEach env fuel i p least).1.stack.count := by
  induction fuel with
  | zero => intros; omega
  | succ fuel ih =>
    intro i p least before h hi hfuel halike
    rw [pairEach]
    split
    · next hend =>
      rw [Nat.le_antisymm hi hend] at halike
      exact ⟨before, halike⟩
    · next hlt =>
      have hlt : i < p.stack.count := Nat.lt_of_not_le hlt
      split
      · have hmerged := Stack.merged_remove p.stack i
        have hcount := hmerged.count
        rw [if_pos hlt] at hcount
        have hcount' : (p.onStack (·.remove i)).stack.count = p.stack.count - 1 := hcount
        exact ih (h.remove i) (by omega) (by omega) (hmerged.alike (Nat.le_refl i) halike)
      · next hhalted =>
        have hstatus : (p.stack.head i).status ≠ .halted := fun heq =>
          hhalted (by rw [Stack.isHalted, heq])
        have hmine := standing_calm (hcalm (h.placed i (Nat.zero_le i) hlt hstatus))
        obtain ⟨-, hsame⟩ := h.toSound.standing i
        have hobeys := h.standing i
        simp only
        generalize p.standing i = standing at hmine hsame hobeys
        obtain ⟨p₁, mine⟩ := standing
        simp only at hmine hsame hobeys ⊢
        have hcount := hsame.count
        have hlt₁ : i < p₁.stack.count := hcount ▸ hlt
        obtain ⟨after, hafter, hle, hless⟩ := pairAll_alike hcalm env hmine
          (p₁.stack.count + 1) (j := 0) hobeys hlt₁ (Nat.zero_le i) (by omega) (hsame.alike halike)
          (by simp) ((hsame.heads i).2 ▸ hstatus) (Stack.isPaused_congr (hsame.heads i).2)
        exact ih (pairAll_obeys env mine (p₁.stack.count + 1) hobeys hlt₁) hle
          (by omega) hafter

/-- **When the readings have been put in order, they are alike** if none has met an error. -/
theorem Obeys.alike_compared (h : p.Obeys L) (hcalm : ∀ {a}, L.tops a → a.Calm) (env : Setting) :
    ∃ waits, (p.compared env).stack.Alike waits (p.compared env).stack.count := by
  have hnone : p.stack.Alike false 0 := fun w hw => absurd hw (Nat.not_lt_zero w)
  obtain ⟨waits, halike⟩ : ∃ waits, (pairEach env (2 * p.stack.count + 1) 0 p none).1.stack.Alike
      waits (pairEach env (2 * p.stack.count + 1) 0 p none).1.stack.count :=
    pairEach_alike hcalm env _ h (Nat.zero_le _) (by omega) hnone
  refine ⟨waits, halike.of_heads fun w hw => ?_⟩
  have hhead := Stack.head_take (pairEach env (2 * p.stack.count + 1) 0 p none).1.stack
    maxReadings w
  have hcount : (p.compared env).stack.count
      = min maxReadings (pairEach env (2 * p.stack.count + 1) 0 p none).1.stack.count := by
    show ((pairEach env (2 * p.stack.count + 1) 0 p none).1.stack.heads.take maxReadings).size = _
    simp [Stack.count, Array.take_eq_extract]
  rw [if_pos (by omega)] at hhead
  exact ⟨w, by omega, congrArg Head.status hhead⟩

/-! ## Beginning recovery for the first time, in the best reading -/

/-- Nothing happens if no reading waits. -/
theorem resumeFirst_active (env : Setting) (fuel : Nat) :
    ∀ {i n : Nat} {going : Bool} {least : Option Nat}, p.stack.Alike false n →
      (resumeFirst env fuel i n p going least).1 = p := by
  induction fuel with
  | zero => exact fun _ => rfl
  | succ fuel ih =>
    intro i n going least halike
    rw [resumeFirst]
    split
    · rfl
    · next hi =>
      split
      · next t hstatus =>
        have hwaits := (halike i (Nat.lt_of_not_le hi)).2
        simp [Stack.isPaused, hstatus] at hwaits
      · exact ih halike

/-- Once a reading goes on, those that wait are dropped. -/
theorem resumeFirst_drop (env : Setting) (fuel : Nat) :
    ∀ {i n : Nat} {p : Parse} {least : Option Nat}, p.Sound L → n ≤ i + fuel →
      (∀ w, i ≤ w → w < n → p.stack.isPaused w = true) →
      (∀ w < p.stack.count, w < i ∨ n ≤ w → (p.stack.head w).status ≠ .halted →
        L.tops (p.stack.spot w)) →
      (resumeFirst env fuel i n p true least).1.Obeys L := by
  induction fuel with
  | zero =>
    intro i n p least h hn _ htops
    exact ⟨h, fun w _ hlt => htops w hlt (by omega)⟩
  | succ fuel ih =>
    intro i n p least h hn hpaused htops
    rw [resumeFirst]
    split
    · exact ⟨h, fun w _ hlt => htops w hlt (by omega)⟩
    · next hi =>
      have hwaits := hpaused i (Nat.le_refl i) (by omega)
      have hin : i < p.stack.count := by
        refine Stack.lt_of_not_active fun hactive => ?_
        simp [Stack.isPaused, hactive] at hwaits
      split
      · next t hstatus =>
        obtain ⟨live, hs⟩ := h.stack
        have hmerged := Stack.merged_remove p.stack i
        have hcount := hmerged.count
        rw [if_pos hin] at hcount
        simp only [Bool.not_true, Bool.false_and, Bool.false_eq_true, if_false]
        refine ih (p := p.onStack (·.remove i)) (h.onStack ⟨live, hs.remove i⟩) (by omega)
          (fun w hw hlt => ?_) fun w hlt hw hhalted => ?_
        · have hsame := (hmerged.heads w).2
          rw [if_neg (Nat.not_lt.mpr hw)] at hsame
          exact (Stack.isPaused_congr hsame).trans (hpaused (w + 1) (by omega) (by omega))
        · change w < (p.stack.remove i).count at hlt
          change ((p.stack.remove i).head w).status ≠ _ at hhalted
          have hspot : (p.stack.remove i).spot w
              = p.stack.spot (if w < i then w else w + 1) := by
            rw [Stack.spot, Stack.spot, Stack.top, Stack.top, (hmerged.heads w).1]
            rfl
          rw [(hmerged.heads w).2] at hhalted
          show L.tops ((p.stack.remove i).spot w)
          rw [hspot]
          split at hhalted
          · next hlow =>
            rw [if_pos hlow]
            exact htops w (by omega) (.inl hlow) hhalted
          · next hhigh =>
            rw [if_neg hhigh]
            exact htops (w + 1) (by omega) (.inr (by omega)) hhalted
      · next hnone =>
        cases hstatus : (p.stack.head i).status with
        | paused t => exact absurd hstatus (hnone t)
        | active | halted => simp [Stack.isPaused, hstatus] at hwaits

section Rounds

variable {g : Grammar.Listed} {text : List Char} (hlang : env.lang.Orderly)
  (hlossless : env.lang.Lossless) (hsource : env.source = Source.ofText text)
  (hgen : env.lang.Generated g) (hclosing : env.lang.Closing)
  (hwithin : L.Within (Law.charged env.lang g text L.whole Spot.Charged))
  (hcalm : ∀ {a}, L.tops a → a.Calm)

include hlang hlossless hsource hgen hclosing hwithin hcalm

/-- If all readings wait, recovery begins in the best one, and then all that are left have paid; or
there have been so many complete trees that none goes on. -/
theorem resumeFirst_paused (fuel : Nat) :
    ∀ {p : Parse} {least : Option Nat}, p.Obeys L → p.stack.count ≤ fuel →
      p.stack.Alike true p.stack.count →
      (resumeFirst env fuel 0 p.stack.count p false least).1.Obeys L
        ∨ (resumeFirst env fuel 0 p.stack.count p false least).1.Obeys
          (Law.charged env.lang g text L.whole Spot.Charged) := by
  induction fuel with
  | zero => exact fun h _ _ => .inl h
  | succ fuel ih =>
    intro p least h hfuel halike
    rw [resumeFirst]
    split
    · exact .inl h
    · next hsome =>
      have hwaits := (halike 0 (by omega)).2
      split
      · next t hstatus =>
        obtain ⟨hgoing, hresumed, hwaits'⟩ := h.resume hstatus
        split
        · refine .inr ?_
          obtain ⟨hbegun, hmoved⟩ := (hresumed.toSound.within hwithin).beginFirst hlang hlossless
            hsource hgen hclosing hgoing.1 hgoing.2 (hcalm (hresumed.tops hgoing.1 hgoing.2))
            (hwithin.waits hwaits')
          have hcount : (p.onStack (·.resume 0)).stack.count = p.stack.count :=
            Stack.count_setHead ..
          refine resumeFirst_drop env fuel hbegun (by omega) (fun w hw hlt => ?_)
            fun w hlt hw hhalted => hmoved.placed w (by omega) hlt hhalted
          have hothers := (hmoved.others w (by omega) (by omega)).2
          rw [Stack.isPaused_congr hothers]
          have hsame : (p.stack.resume 0).head w = p.stack.head w := by
            rw [Stack.resume, Stack.head_setHead, if_neg (by omega)]
          exact (Stack.isPaused_congr (congrArg Head.status hsame)).trans (halike w hlt).2
        · have hmerged := Stack.merged_remove p.stack 0
          have hcount : (p.onStack (·.remove 0)).stack.count = p.stack.count - 1 := by
            show (p.stack.remove 0).count = _
            rw [hmerged.count, if_pos (by omega)]
          rw [← hcount]
          refine ih (h.remove 0) (by omega) (halike.of_heads fun w hw => ⟨w + 1, by omega, ?_⟩)
          exact (hmerged.heads w).2.trans (by rw [if_neg (Nat.not_lt_zero w)])
      · next hnone =>
        cases hstatus : (p.stack.head 0).status with
        | paused t => exact absurd hstatus (hnone t)
        | active | halted => simp [Stack.isPaused, hstatus] at hwaits

/-- **A round leaves readings that have met no error, or readings that have all paid.** -/
theorem Obeys.round_calm (hL : L.Advances env) (h : p.Obeys L) (furthest : Nat) :
    (p.round env furthest).1.Obeys L
      ∨ (p.round env furthest).1.Obeys (Law.charged env.lang g text L.whole Spot.Charged) := by
  have hadvanced := advanceReadings_obeys hL env.maxSteps 0 furthest h
  rw [Parse.round]
  simp only
  rw [condense_eq]
  generalize (advanceReadings env env.maxSteps 0 p furthest).1 = p₁ at hadvanced
  have hcompared := hadvanced.compared env
  obtain ⟨waits, halike⟩ := hadvanced.alike_compared hcalm env
  cases waits with
  | false =>
    rw [resumeFirst_active env _ halike]
    exact .inl hcompared
  | true =>
    exact resumeFirst_paused hlang hlossless hsource hgen hclosing hwithin hcalm _ hcompared
      (by omega) halike

/-- **What readings without errors keep to holds of every complete tree that costs nothing.** -/
theorem whole_or_pos_of_rounds (hL : L.Advances env) (htops : L.tops Spot.origin)
    {fuel furthest : Nat} {t : Tree}
    (ht : (rounds env fuel (Parse.begin none) furthest).finished = some t) :
    L.whole t ∨ 0 < t.errorCost := by
  have hobeys : (rounds env fuel (Parse.begin none) furthest).Obeys L
      ∨ (rounds env fuel (Parse.begin none) furthest).Obeys
        (Law.charged env.lang g text L.whole Spot.Charged) :=
    rounds_induction (q := fun p => p.Obeys L
        ∨ p.Obeys (Law.charged env.lang g text L.whole Spot.Charged))
      (fun p furthest h => by
        rcases h with h | h
        · exact h.round_calm hlang hlossless hsource hgen hclosing hwithin hcalm hL furthest
        · exact .inr (h.round (Law.advances_charged hlang hlossless hsource hgen hclosing)
            (Law.enters_charged hlang hlossless hsource hgen hclosing) hlang.someToken furthest))
      fuel (.inl (begin_obeys hL.origin htops (by simp)))
  rcases hobeys with h | h
  · exact .inl (h.finished t ht)
  · exact h.finished t ht

end Rounds

end Parse

end SyntaxKit
