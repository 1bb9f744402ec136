import SyntaxKit.Proofs.Parse.Reuse

/-!
# Advancing a reading keeps to the law

What a reading goes on with, be it taken over, kept from before or read afresh, may be waited with
where the reading stands.  The actions of its state on it are then carried out one after the other:
each reduction adds readings that are as far on, and so the reading that goes on with the last of
them may still wait with the same.
-/

namespace SyntaxKit

namespace Parse

variable {L : Law} {env : Setting} {p : Parse}

/-- What a turn of a reading leaves. -/
abbrev Left (L : Law) (v : Nat) (p : Parse) : Prop := p.Obeys L ∧ v < p.stack.count

theorem Left.halt {v : Nat} (h : Left L v p) : Left L v (p.onStack (·.halt v)) := by
  obtain ⟨live, hs⟩ := h.1.stack
  exact ⟨⟨h.1.onStack ⟨live, hs.halt v⟩, h.1.placed.setHead v rfl (by simp)⟩,
    by simpa [Parse.onStack, Stack.halt] using h.2⟩

/-- A turn in which the reading has gone on. -/
theorem Obeys.left {p' : Parse} (h : p.Obeys L) (hp' : p'.Sound L) {v : Nat}
    (hv : v < p.stack.count) (hmoved : Stack.Moved L v p.stack p'.stack) : Left L v p' :=
  ⟨h.moved hp' hmoved, Nat.lt_of_lt_of_le hv hmoved.count⟩

theorem Left.passReused {v : Nat} (h : Left L v p) (reused : Bool) :
    Left L v (p.passReused reused) := by
  obtain ⟨hobeys, hstack⟩ := h.1.passReused reused
  exact ⟨hobeys, by rw [hstack]; exact h.2⟩

/-- A reading that has the lookahead in front of it. -/
structure Facing (L : Law) (v : Nat) (t : Tree) (p : Parse) : Prop where
  obeys : p.Obeys L
  going : Going v p
  waits : L.waits (p.stack.position v) t
  faces : L.faces (p.stack.spot v) t

theorem Facing.left {v : Nat} {t : Tree} (h : Facing L v t p) : Left L v p := ⟨h.obeys, h.going.1⟩

theorem Facing.stands {v : Nat} {t : Tree} (h : Facing L v t p) : L.stands (p.stack.spot v) :=
  h.obeys.stands (by simp [h.going.2])

theorem Facing.tops {v : Nat} {t : Tree} (h : Facing L v t p) : L.tops (p.stack.spot v) :=
  h.obeys.tops h.going.1 h.going.2

/-! ## Shifting -/

/-- Pushing a subtree that is shifted. -/
theorem Obeys.shift (h : p.Obeys L) {v : Nat} (hgoing : Going v p) {t : Tree} {extra : Bool}
    {next : ParseState}
    (hstep : L.step (p.stack.spot v) (some (t.shifted extra))
      ((p.stack.spot v).reach (some (t.shifted extra)) next))
    (htops : L.tops ((p.stack.spot v).reach (some (t.shifted extra)) next))
    (hdivides : t.isLeaf = false → L.divides t) : Left L v (p.shift env v next t extra) := by
  have hshift : p.shift env v next t extra
      = p.onStack (·.push env.lang v (some (t.shifted extra)) (!t.isLeaf) next) := rfl
  obtain ⟨live, hs⟩ := h.stack
  have hpushed := hs.push env.lang hgoing.2 (some (t.shifted extra)) (!t.isLeaf) next hstep
    fun u hpending hu => by
      have hleaf : t.isLeaf = false := by simpa using hpending
      simp only [Option.some.injEq, Tree.shifted, hleaf, Bool.false_and] at hu
      exact hu ▸ hdivides hleaf
  rw [hshift]
  refine h.left (h.onStack ⟨_, hpushed⟩) hgoing.1 ((Stack.touched_push ..).moved_of_tops ?_)
  rw [Stack.spot_push p.stack env.lang hgoing.1]
  exact htops

/-- Shifting the lookahead, or its first part. -/
theorem Facing.shiftLookahead (hL : L.Advances env) {v : Nat} {t : Tree} (h : Facing L v t p)
    {next : ParseState} (extra : Bool)
    (hnext : if extra then next = p.stack.state v
        ∧ .shiftExtra ∈ env.lang.actions (p.stack.state v) t.firstSymbol
      else .shift next false ∈ env.lang.actions (p.stack.state v) t.firstSymbol) (reused : Bool) :
    Left L v (p.shiftLookahead env v (p.stack.state v) next t extra reused) := by
  rw [Parse.shiftLookahead]
  split
  · next hleaf =>
    have hstep : L.step (p.stack.spot v) (some (t.shifted extra))
          ((p.stack.spot v).reach (some (t.shifted extra)) next)
        ∧ L.tops ((p.stack.spot v).reach (some (t.shifted extra)) next) := by
      cases extra with
      | false => exact hL.shift h.stands h.tops h.waits h.faces hleaf hnext
      | true =>
        obtain ⟨rfl, hmem⟩ := hnext
        exact hL.shiftExtra h.stands h.tops h.waits hleaf hmem
    have hleft : Left L v (p.shift env v next t extra) :=
      h.obeys.shift h.going hstep.1 hstep.2 (by simp [hleaf])
    exact hleft.passReused reused
  · next hleaf =>
    have hleaf : t.isLeaf = false := by simpa using hleaf
    obtain ⟨⟨hstep, htops⟩, hdivides⟩ := hL.shiftPart extra
      (fun u => !u.isLeaf && u.state? != some (p.stack.state v)) h.stands h.tops h.waits hleaf (by
        cases extra with
        | false => exact ⟨next, hnext⟩
        | true => exact hnext.2)
    obtain ⟨hsound, hstack, -⟩ := h.obeys.breakDownLookahead h.waits (p.stack.state v)
    exact Left.passReused
      (Obeys.shift (h.obeys.of_stack hsound hstack) h.going hstep htops hdivides) reused

/-- The reading has come to an end that its state accepts. -/
theorem Facing.accept (hL : L.Advances env) {v : Nat} {t : Tree} (h : Facing L v t p)
    (haccept : .accept ∈ env.lang.actions (p.stack.state v) t.firstSymbol) :
    Left L v (p.accept env v t) := by
  obtain ⟨live, hs⟩ := h.obeys.stack
  have hbut : Stack.SoundBut L live (fun w => w = v) p.stack :=
    hs.of_vertices rfl fun w _ => hs.heads w id
  obtain ⟨hsound, -, hmoved⟩ := Sound.accept env t hbut h.obeys.cached
    h.obeys.walk h.obeys.finished h.going.1 ((hs.heads v id).top_live (by simp [h.going.2])) .here
    fun ts n root hchain hroot => hL.accept hchain h.stands h.tops h.waits haccept hroot
  exact h.obeys.left hsound h.going.1 hmoved

/-! ## The actions of a state -/

/-- What the actions carried out so far have led to. -/
def TurnSound (L : Law) (v : Nat) (t : Tree) (a : Spot) : Turn → Prop
  | .over p => Left L v p
  | .goOn p last _ => Facing L v t p ∧ p.stack.spot v = a
    ∧ ∀ w, last = some w → v < w ∧ w < p.stack.count ∧ (p.stack.head w).status = .active
      ∧ (p.stack.position w).bytes = a.position.bytes ∧ L.faces (p.stack.spot w) t

/-- If a turn goes on without a reduction, there was nothing to be done. -/
theorem act_idle {v : Nat} {state : ParseState} {t : Tree} {reused ambiguous : Bool}
    (as : List Action) :
    ∀ {p p' : Parse} {last last' : Option Nat} {reduced : Bool},
      act env v state t reused ambiguous as p last reduced = .goOn p' last' false →
        reduced = false ∧ ∀ x ∈ as, ∃ next, x = .shift next true := by
  induction as with
  | nil =>
    intro p p' last last' reduced h
    simp only [act, Turn.goOn.injEq] at h
    exact ⟨h.2.2, by simp⟩
  | cons x rest ih =>
    intro p p' last last' reduced h
    rw [act.eq_def] at h
    cases x with
    | shift next repetition =>
      cases repetition with
      | false => simp at h
      | true =>
        obtain ⟨hreduced, hrest⟩ := ih h
        refine ⟨hreduced, fun x hx => ?_⟩
        rcases List.mem_cons.mp hx with rfl | hx
        · exact ⟨next, rfl⟩
        · exact hrest x hx
    | reduce symbol count production => exact absurd (ih h).1 (by simp)
    | shiftExtra | accept | recover => simp at h

theorem act_spec (hL : L.Advances env) {v : Nat} {t : Tree} {a : Spot} (reused ambiguous : Bool)
    (as : List Action) :
    ∀ {p : Parse} {last : Option Nat} (reduced : Bool), TurnSound L v t a (.goOn p last reduced) →
      (∀ x ∈ as, x ∈ env.lang.actions a.state t.firstSymbol) →
      TurnSound L v t a (act env v a.state t reused ambiguous as p last reduced) := by
  induction as with
  | nil => exact fun _ h _ => h
  | cons x rest ih =>
    intro p last reduced h has
    obtain ⟨hfacing, hspot, hlast⟩ := h
    have hrest : ∀ y ∈ rest, y ∈ env.lang.actions a.state t.firstSymbol :=
      fun y hy => has y (List.mem_cons_of_mem _ hy)
    have hstate : p.stack.state v = a.state := congrArg Spot.state hspot
    have hx : x ∈ env.lang.actions (p.stack.state v) t.firstSymbol := by
      rw [hstate]
      exact has x (List.mem_cons_self ..)
    rw [act.eq_def, ← hstate]
    cases x with
    | shift next repetition =>
      simp only
      split
      · rw [hstate]
        exact ih reduced ⟨hfacing, hspot, hlast⟩ hrest
      · next hrepetition =>
        rw [Bool.not_eq_true _ |>.mp hrepetition] at hx
        exact hfacing.shiftLookahead hL false hx reused
    | shiftExtra => exact hfacing.shiftLookahead hL true ⟨rfl, hx⟩ reused
    | reduce symbol count production =>
      simp only
      obtain ⟨live, hs⟩ := hfacing.obeys.stack
      obtain ⟨hreduced, hnew⟩ := hfacing.obeys.reduce (v := v) (r := ⟨symbol, count, production⟩)
        (by simp [hfacing.going.2]) (hL.reduces hfacing.stands hfacing.tops hfacing.waits
          hfacing.faces hx)
        ambiguous
      have hv := hfacing.going.1
      have hsame := hreduced.kept.spot_eq hs hv (by simp [hfacing.going.2])
      have hposition : p.stack.position v = a.position := congrArg Spot.position hspot
      -- what has come out of the reduction stands where it may, and may go on with the same
      have hends : ∀ w, p.stack.count ≤ w →
          w < (p.reduce env v ⟨symbol, count, production⟩ ambiguous).1.stack.count →
          L.tops ((p.reduce env v ⟨symbol, count, production⟩ ambiguous).1.stack.spot w)
            ∧ L.faces ((p.reduce env v ⟨symbol, count, production⟩ ambiguous).1.stack.spot w) t :=
        fun w hw hlt => hL.lands
          (hreduced.sound.stands (v := w) (by simp [hreduced.active w hw])) hfacing.waits
          hfacing.faces hx (hreduced.ends w hw hlt) hfacing.tops
      have hobeys : (p.reduce env v ⟨symbol, count, production⟩ ambiguous).1.Obeys L :=
        ⟨hreduced.sound, hfacing.obeys.placed.of_kept hs hreduced.kept (Nat.le_refl _)
          fun w hw hlt _ => (hends w hw hlt).1⟩
      rw [hstate]
      refine ih true ⟨⟨hobeys, ⟨Nat.lt_of_lt_of_le hv hreduced.kept.count,
        (hreduced.kept.heads v hv).2.trans hfacing.going.2⟩, ?_, hsame.symm ▸ hfacing.faces⟩,
        hsame.trans hspot, fun w hw => ?_⟩ hrest
      · have hwaits := hfacing.waits
        rw [← Stack.position_spot, ← hsame] at hwaits
        exact hwaits
      · cases hreduce : (p.reduce env v ⟨symbol, count, production⟩ ambiguous).2 with
        | none =>
          rw [hreduce] at hw
          obtain ⟨hvw, hlt, hactive, hbytes, hfaces⟩ := hlast w hw
          have hsame' := hreduced.kept.spot_eq hs hlt (by simp [hactive])
          have hposition' : (p.reduce env v ⟨symbol, count, production⟩ ambiguous).1.stack.position w
              = p.stack.position w := congrArg Spot.position hsame'
          exact ⟨hvw, Nat.lt_of_lt_of_le hlt hreduced.kept.count,
            (hreduced.kept.heads w hlt).2.trans hactive, by rw [hposition']; exact hbytes,
            hsame'.symm ▸ hfaces⟩
        | some new =>
          rw [hreduce] at hw
          obtain rfl : new = w := by simpa using hw
          obtain ⟨rfl, hlt⟩ := hnew new hreduce
          have hbytes := (hreduced.ends _ (Nat.le_refl _) hlt).bytes
          rw [hspot] at hbytes
          exact ⟨hv, hlt, hreduced.active _ (Nat.le_refl _), hbytes, (hends _ (Nat.le_refl _) hlt).2⟩
    | accept =>
      exact hfacing.accept hL hx
    | recover =>
      have hrecovers := hL.recovers hfacing.stands hfacing.tops hx
      simp only
      split
      · obtain ⟨hsound, hmoved⟩ := hfacing.obeys.recover hrecovers hfacing.going.1 hfacing.going.2
          (Law.part_of_waits hfacing.waits) fun _ _ => paysFor_of_tops hfacing.tops _
        exact (hfacing.obeys.left hsound hfacing.going.1 hmoved).passReused reused
      · obtain ⟨hsound, hstack, hpart⟩ :=
          hfacing.obeys.breakDownLookahead hfacing.waits ParseState.recovering
        obtain ⟨hsound', hmoved⟩ := hsound.recover (v := v) hrecovers
          (by rw [hstack]; exact hfacing.going.1) (by rw [hstack]; exact hfacing.going.2)
          (by rw [hstack]; exact hpart)
          fun _ _ => paysFor_of_tops (by rw [hstack]; exact hfacing.tops) _
        rw [hstack] at hmoved
        exact (hfacing.obeys.left hsound' hfacing.going.1 hmoved).passReused reused

/-! ## A whole turn -/

/-- A token that is read may be waited with, and is kept for other readings at the same place. -/
theorem Obeys.readToken (hL : L.Advances env) (h : p.Obeys L) {v : Nat} (hgoing : Going v p) :
    Facing L v (p.readToken env v (p.stack.state v)).2.1 (p.readToken env v (p.stack.state v)).1
      ∧ (p.readToken env v (p.stack.state v)).1.stack = p.stack
      ∧ (p.readToken env v (p.stack.state v)).2.2 = env.lang.entry? (p.stack.state v)
          (p.readToken env v (p.stack.state v)).2.1.firstSymbol := by
  have hstands := h.stands (v := v) (by simp [hgoing.2])
  obtain ⟨hread, hfaces⟩ := hL.read hstands (h.tops hgoing.1 hgoing.2)
  refine ⟨⟨⟨⟨h.stack, fun offset t ht => ?_, h.walk, h.finished⟩, h.placed⟩, hgoing, hread, hfaces⟩,
    rfl, rfl⟩
  simp only [Parse.readToken, Option.some.injEq, Prod.mk.injEq] at ht
  obtain ⟨rfl, rfl⟩ := ht
  exact ⟨_, hstands, rfl, hread⟩

/-- The reading goes on with the last one that came out of a reduction. -/
theorem Facing.replace {v w : Nat} {t : Tree} (h : Facing L v t p) (hw : v < w)
    (hin : w < p.stack.count) (hactive : (p.stack.head w).status = .active)
    (hbytes : (p.stack.position w).bytes = (p.stack.position v).bytes)
    (hfaces : L.faces (p.stack.spot w) t) : Facing L v t (p.onStack (·.replace w v)) := by
  obtain ⟨live, hs⟩ := h.obeys.stack
  have hhead := Stack.head_replace (s := p.stack) hw (Nat.lt_trans hw hin) v
  rw [if_pos rfl] at hhead
  have hspot : (p.stack.replace w v).spot v = p.stack.spot w := by
    rw [Stack.spot, Stack.spot, Stack.top, Stack.top, hhead.1, Stack.vertex,
      Stack.vertices_replace, ← Stack.vertex]
  have hposition : (p.stack.replace w v).position v = p.stack.position w :=
    congrArg Spot.position hspot
  refine ⟨⟨h.obeys.onStack ⟨live, hs.replace w v⟩, h.obeys.placed.replace hs hw hin⟩,
    ⟨?_, hhead.2.trans hactive⟩, ?_, hspot.symm ▸ hfaces⟩
  · show v < (p.stack.replace w v).count
    rw [Stack.count_replace (by omega) hin]
    omega
  · show L.waits ((p.stack.replace w v).position v) t
    rw [hposition]
    exact L.waits_congr h.waits (h.obeys.stands (v := w) (by simp [hactive])) hbytes

/-- A keyword taken as an identifier may be waited with. -/
theorem Facing.asWord (hL : L.Advances env) {v : Nat} {t : Tree} (h : Facing L v t p)
    (hkeyword : t.isKeyword = true)
    (hidle : ∀ x ∈ env.lang.actions (p.stack.state v) t.firstSymbol, ∃ next, x = .shift next true) :
    Facing L v (Parse.asWord env t) p ∧ (Parse.asWord env t).firstSymbol = env.lang.wordToken := by
  obtain ⟨hwaits, hfaces⟩ := hL.word h.stands h.waits h.faces hkeyword hidle
  refine ⟨⟨h.obeys, h.going, hwaits, hfaces⟩, ?_⟩
  cases t with
  | token k => rfl
  | branch b cs => simp [Tree.isKeyword] at hkeyword

/-- **A turn of a reading keeps to the law.** -/
theorem advanceWith_spec (hL : L.Advances env) {v : Nat} (fuel : Nat) :
    ∀ {p : Parse} {t : Tree} {entry : Option Entry} (reused : Bool), Facing L v t p →
      entry = env.lang.entry? (p.stack.state v) t.firstSymbol →
      Left L v (advanceWith env v fuel p (p.stack.state v) t entry reused) := by
  induction fuel with
  | zero => exact fun _ h _ => h.left.halt
  | succ fuel ih =>
    intro p t entry reused h hentry
    rw [advanceWith]
    simp only
    have hactions : (entry.map (·.actions)).getD []
        = env.lang.actions (p.stack.spot v).state t.firstSymbol := by
      rw [hentry]
      rfl
    have hbegin : TurnSound L v t (p.stack.spot v) (.goOn p none false) := ⟨h, rfl, by simp⟩
    have hact := act_spec hL reused (1 < ((entry.map (·.actions)).getD []).length)
      ((entry.map (·.actions)).getD []) false hbegin (by simp [hactions])
    rw [Stack.state_spot] at hact
    split
    · next p' heq =>
      rw [heq] at hact
      exact hact
    · next p' new _ heq =>
      rw [heq] at hact
      obtain ⟨hfacing, hspot, hlast⟩ := hact
      obtain ⟨hvw, hlt, hactive, hbytes, hfaces⟩ := hlast new rfl
      have hposition : p'.stack.position v = p.stack.position v := congrArg Spot.position hspot
      exact ih reused (hfacing.replace hvw hlt hactive (by rw [hposition]; exact hbytes) hfaces) rfl
    · next p' heq =>
      rw [heq] at hact
      exact hact.1.left.halt
    · next p' heq =>
      rw [heq] at hact
      obtain ⟨-, hidle⟩ := act_idle _ heq
      obtain ⟨hfacing, hspot, -⟩ := hact
      have hstate : p.stack.state v = p'.stack.state v := (congrArg Spot.state hspot).symm
      rw [hstate]
      split
      · next e hword =>
        split at hword
        · next hcond =>
          simp only [Bool.and_eq_true] at hcond
          rw [hactions, Stack.state_spot, hstate] at hidle
          obtain ⟨hfacing', hfirst⟩ := hfacing.asWord hL hcond.1 hidle
          exact ih reused hfacing' (by rw [hfirst, hword])
        · simp at hword
      · obtain ⟨⟨hobeys, hgoing, -⟩, hsame⟩ :=
          breakDownTop_spec hL maxRounds false hfacing.obeys hfacing.going
        split
        · next p₁ heq₁ =>
          rw [heq₁] at hobeys hgoing
          obtain ⟨hread, hstack, hentry'⟩ := hobeys.readToken hL hgoing
          have hgo := ih reused hread (hentry'.trans (by rw [hstack]))
          rw [hstack] at hgo
          exact hgo
        · next p₁ heq₁ =>
          rw [heq₁] at hobeys hgoing hsame
          obtain ⟨live, hs⟩ := hobeys.stack
          have hwaits := hfacing.waits
          rw [← Stack.position_spot, ← hsame rfl] at hwaits
          exact ⟨⟨hobeys.onStack ⟨live, hs.pause (by simp [hgoing.2]) hwaits⟩,
            hobeys.placed.setHead v rfl (by simp [hgoing.2])⟩,
            by simpa [Parse.onStack, Stack.pause] using hgoing.1⟩

/-- The token read last may be waited with where it was read. -/
theorem Obeys.cachedToken (hL : L.Advances env) (h : p.Obeys L) {v : Nat} (hgoing : Going v p)
    {offset : Nat} {t : Tree} {entry : Option Entry}
    (hcached : p.cachedToken env (p.stack.state v) offset = some (t, entry))
    (hoffset : (p.stack.position v).bytes = offset) :
    Facing L v t p ∧ entry = env.lang.entry? (p.stack.state v) t.firstSymbol := by
  rw [Parse.cachedToken] at hcached
  split at hcached
  · next at_ k hk =>
    split at hcached
    · next hat =>
      simp only at hcached
      split at hcached
      · next hreuse =>
        simp only [Option.some.injEq, Prod.mk.injEq] at hcached
        obtain ⟨rfl, rfl⟩ := hcached
        obtain ⟨a, -, hbytes, hwaits⟩ := h.cached _ _ hk
        have hstands := h.stands (v := v) (by simp [hgoing.2])
        have hwaits : L.waits (p.stack.spot v).position (.token k) :=
          L.waits_congr hwaits hstands (by rw [hbytes, hat]; exact hoffset)
        exact ⟨⟨h, hgoing, hwaits, hL.cached hstands (h.tops hgoing.1 hgoing.2) hwaits hreuse⟩, rfl⟩
      · simp at hcached
    · simp at hcached
  · simp at hcached

/-- **Advancing a reading by one token or subtree keeps to the law.** -/
theorem Obeys.advance (hL : L.Advances env) (h : p.Obeys L) {v : Nat} (hgoing : Going v p)
    (mayReuse : Bool) : Left L v (p.advance env v mayReuse) := by
  rw [Parse.advance]
  simp only
  -- what has been found in the earlier tree, if it has been looked for
  generalize hlook : (if mayReuse then
    findReusable env v (p.stack.position v).bytes env.maxSteps p (p.stack.state v)
    else (p, p.stack.state v, none)) = look
  have hfound : Found L env v (p.stack.position v).bytes look.1 look.2.1 look.2.2 := by
    rw [← hlook]
    split
    · exact findReusable_spec hL env.maxSteps h hgoing rfl rfl
    · exact ⟨h, hgoing, rfl, rfl, by simp⟩
  obtain ⟨p', state, found⟩ := look
  obtain ⟨hobeys, hgoing', hstate, hbytes, hwaits⟩ := hfound
  simp only at hobeys hgoing' hstate hbytes hwaits ⊢
  subst hstate
  cases found with
  | some taken =>
    obtain ⟨t, entry⟩ := taken
    obtain ⟨hwaits, hfaces, hentry⟩ := hwaits t entry rfl
    exact advanceWith_spec hL _ true ⟨hobeys, hgoing', hwaits, hfaces⟩ hentry
  | none =>
    simp only
    split
    · next t entry hcached =>
      obtain ⟨hfacing, hentry⟩ := hobeys.cachedToken hL hgoing' hcached hbytes
      exact advanceWith_spec hL _ false hfacing hentry
    · obtain ⟨hfacing, hstack, hentry⟩ := hobeys.readToken hL hgoing'
      have hgo := advanceWith_spec hL env.maxSteps false hfacing (hentry.trans (by rw [hstack]))
      rw [hstack] at hgo
      exact hgo

end Parse

end SyntaxKit
