import SyntaxKit.Proofs.Parse.Enter
import SyntaxKit.Parse.Advance

/-!
# Taking over keeps to the law

The walk over the earlier tree stays within that tree, and the offset that it keeps is the one at
which the subtree under consideration begins; so what is taken over where a reading stands may be at
hand there.  A subtree that was taken over whole and turns out to be too much is replaced by its
children, again and again until a token is on top, and this leaves the reading as far on as it was.
-/

namespace SyntaxKit

namespace Parse

variable {L : Law} {env : Setting} {p : Parse}

/-! ## The walk -/

theorem Behind.nextFrom {w : Tree.Walk} {offset : Nat} (hw : Behind L offset w) :
    Spare L (Tree.Walk.nextFrom offset w) := by
  induction w with
  | nil => trivial
  | cons s above ih =>
    obtain ⟨hright, habove⟩ := hw
    rw [Tree.Walk.nextFrom.eq_def]
    simp only
    split
    · next hnil =>
      rw [hnil] at habove
      exact ih habove
    · next next right heq =>
      rw [heq] at hright habove
      refine ⟨hright.1, hright.2, ?_⟩
      rwa [Tree.totalSizes_cons, Extent.bytes_add, ← Nat.add_assoc] at habove

theorem Spare.advance {w : Tree.Walk} (hw : Spare L w) : Spare L w.advance := by
  cases w with
  | nil => trivial
  | cons s above => exact hw.2.nextFrom

theorem Sound.withWalk (h : p.Sound L) (walk : Tree.Walk) (hwalk : Spare L walk) :
    ({ p with walk } : Parse).Sound L := ⟨h.stack, h.cached, hwalk, h.finished⟩

theorem Obeys.withWalk (h : p.Obeys L) (walk : Tree.Walk) (hwalk : Spare L walk) :
    ({ p with walk } : Parse).Obeys L := ⟨h.toSound.withWalk walk hwalk, h.placed⟩

theorem Obeys.passReused (h : p.Obeys L) (reused : Bool) :
    (p.passReused reused).Obeys L ∧ (p.passReused reused).stack = p.stack := by
  rw [Parse.passReused]
  split
  · exact ⟨h.withWalk _ h.walk.advance, rfl⟩
  · exact ⟨h, rfl⟩

/-! ## Replacing a subtree by its children -/

/-- The reading goes on and is in the list. -/
def Going (v : Nat) (p : Parse) : Prop :=
  v < p.stack.count ∧ (p.stack.head v).status = .active

theorem Going.touched {v : Nat} {p' : Parse} (h : Going v p)
    (htouched : Stack.Touched v p.stack p'.stack) : Going v p' :=
  ⟨by rw [htouched.count]; exact h.1, htouched.status.trans h.2⟩

/-- Pushing the children of a subtree that is divided leaves the reading where the extras that were
behind it may be pushed. -/
theorem pushChildren_spec {v : Nat} {extras : List Tree} (children : List Tree) :
    ∀ {p : Parse} (pending : Bool), p.Sound L → Going v p →
      L.Divided env extras (p.stack.spot v) children →
      let pushed := pushChildren env v children p (p.stack.state v) pending
      pushed.1.Sound L ∧ Going v pushed.1 ∧ pushed.1.stack.state v = pushed.2.1
        ∧ L.Row pushed.2.1 (pushed.1.stack.spot v) extras
        ∧ pushed.1.stack.position v = p.stack.position v + Tree.totalSizes children := by
  induction children with
  | nil =>
    intro p pending h hgoing hdivided
    exact ⟨h, hgoing, rfl, hdivided, (Extent.add_zero _).symm⟩
  | cons child rest ih =>
    intro p pending h hgoing ⟨hstep, hdivides, hrest⟩
    obtain ⟨live, hs⟩ := h.stack
    have hpushed := hs.push env.lang hgoing.2 (some child) (!child.isLeaf)
      (Law.stateOver env (p.stack.state v) child) hstep fun t hpending ht => by
        simp only [Option.some.injEq] at ht
        exact ht ▸ hdivides (by simpa using hpending)
    have hspot := Stack.spot_push p.stack env.lang hgoing.1 (some child) (!child.isLeaf)
      (Law.stateOver env (p.stack.state v) child)
    generalize hp₁ : p.onStack (·.push env.lang v (some child) (!child.isLeaf)
      (Law.stateOver env (p.stack.state v) child)) = p₁
    have hsound₁ : p₁.Sound L := hp₁ ▸ h.onStack ⟨_, hpushed⟩
    have hgoing₁ : Going v p₁ := hp₁ ▸ hgoing.touched (Stack.touched_push ..)
    have hspot₁ : p₁.stack.spot v = (p.stack.spot v).reach (some child)
        (Law.stateOver env (p.stack.state v) child) := hp₁ ▸ hspot
    have hstate₁ : p₁.stack.state v = Law.stateOver env (p.stack.state v) child :=
      congrArg Spot.state hspot₁
    have hposition₁ : p₁.stack.position v = p.stack.position v + child.totalSize :=
      congrArg Spot.position hspot₁
    obtain ⟨hsound, hgoing', hstate, hrow, hposition⟩ :=
      ih (!child.isLeaf) hsound₁ hgoing₁ (hspot₁ ▸ hrest)
    have hunfold : pushChildren env v (child :: rest) p (p.stack.state v) pending
        = pushChildren env v rest p₁ (p₁.stack.state v) (!child.isLeaf) := by
      rw [hstate₁, ← hp₁]
      rfl
    intro pushed
    have hpushed' : pushed = pushChildren env v rest p₁ (p₁.stack.state v) (!child.isLeaf) := hunfold
    rw [hpushed']
    refine ⟨hsound, hgoing', hstate, hrow, ?_⟩
    rw [hposition, hposition₁, Tree.totalSizes_cons, Extent.add_assoc]

theorem breakDownTop_done (v : Nat) (fuel : Nat) (p : Parse) :
    (breakDownTop env v fuel p true).2 = true := by
  induction fuel generalizing p with
  | zero => rfl
  | succ fuel ih =>
    rw [breakDownTop]
    split
    · rfl
    · simp only
      split
      · exact ih _
      · rfl

/-- What breaking down a subtree on top leaves: the reading is as far on as it was. -/
structure Broken (L : Law) (v : Nat) (p p' : Parse) : Prop where
  obeys : p'.Obeys L
  going : Going v p'
  bytes : (p'.stack.position v).bytes = (p.stack.position v).bytes

/-- **Replacing subtrees that were taken over by their children keeps to the law**, leaves the
reading as far on as it was, and where it is if there was no such subtree. -/
theorem breakDownTop_spec (hL : L.Advances env) {v : Nat} (fuel : Nat) :
    ∀ {p : Parse} (done : Bool), p.Obeys L → Going v p →
      Broken L v p (breakDownTop env v fuel p done).1
        ∧ ((breakDownTop env v fuel p done).2 = false →
          (breakDownTop env v fuel p done).1.stack.spot v = p.stack.spot v) := by
  induction fuel with
  | zero => exact fun _ h hgoing => ⟨⟨h, hgoing, rfl⟩, fun _ => rfl⟩
  | succ fuel ih =>
    intro p done h hgoing
    obtain ⟨live, hs⟩ := h.stack
    obtain ⟨hsound, hstepped, hpopped⟩ := hs.popPending hgoing.1 hgoing.2
    rw [breakDownTop]
    generalize p.stack.popPending v = popped at hsound hstepped hpopped
    obtain ⟨stack, trees⟩ := popped
    have hsound₁ : ({ p with stack } : Parse).Sound L := h.withStack ⟨live, hsound⟩
    have hgoing₁ : Going v ({ p with stack } : Parse) :=
      ⟨Nat.lt_of_lt_of_le hgoing.1 hstepped.count, hstepped.active⟩
    obtain ⟨rfl, hspot, hcount⟩ | ⟨n, ⟨parent, others, rfl, hdivides, hextras⟩, hchain⟩ := hpopped
    · have hmoved : Stack.Moved L v p.stack stack := {
        toExtends := .of_vertices hstepped.vertices
        count := hstepped.count
        others := hstepped.others
        placed := fun w hw hlt _ => by
          obtain rfl : w = v := hw.resolve_left (Nat.not_le.mpr (hcount ▸ hlt))
          exact hspot.symm ▸ h.tops hgoing.1 hgoing.2 }
      exact ⟨⟨h.moved hsound₁ hmoved, hgoing₁, congrArg (fun a => a.position.bytes) hspot⟩,
        fun _ => hspot⟩
    · -- the children are pushed, and the extras behind them
      obtain ⟨htotal, hdivided⟩ :=
        hL.divide hdivides (hsound₁.stands (v := v) (by simp [hgoing₁.2])) hchain hextras
      obtain ⟨hsound₂, hgoing₂, hstate₂, hrow, hposition₂⟩ :=
        pushChildren_spec parent.children false hsound₁ hgoing₁ hdivided
      simp only
      generalize pushChildren env v parent.children { p with stack } (stack.state v) false = pushed
        at hsound₂ hgoing₂ hstate₂ hrow hposition₂
      obtain ⟨live₂, hs₂⟩ := hsound₂.stack
      obtain ⟨hsound₃, htouched, hspot₃⟩ :=
        Stack.Sound.pushAll env.lang others hs₂ hgoing₂.1 hgoing₂.2 hrow
      have hposition₃ := congrArg Spot.position hspot₃
      rw [Stack.position_spot, Spot.position_along, Stack.position_spot] at hposition₃
      have hbytes : ((pushed.1.onStack fun s => others.foldl
          (fun s t => s.push env.lang v (some t) false pushed.2.1) s).stack.position v).bytes
            = (p.stack.position v).bytes := by
        have hbelow := hchain.bytes
        rw [Tree.totalSizes_cons, Extent.bytes_add, ← htotal] at hbelow
        rw [Parse.onStack, hposition₃, hposition₂, Extent.bytes_add, Extent.bytes_add,
          Nat.add_assoc]
        exact hbelow.symm
      have hbroken : Broken L v p (pushed.1.onStack fun s => others.foldl
          (fun s t => s.push env.lang v (some t) false pushed.2.1) s) :=
        ⟨⟨hsound₂.onStack hsound₃, fun w _ _ _ => hL.divides hdivides _⟩,
          hgoing₂.touched htouched, hbytes⟩
      split
      · obtain ⟨hagain, -⟩ := ih true hbroken.obeys hbroken.going
        refine ⟨⟨hagain.obeys, hagain.going, hagain.bytes.trans hbroken.bytes⟩, fun hfalse => ?_⟩
        rw [breakDownTop_done] at hfalse
        exact absurd hfalse (by simp)
      · exact ⟨hbroken, by simp⟩

/-! ## Looking for a subtree to take over -/

/-- What a search in the earlier tree leads to: the reading is as far on as it was, and may wait with
a subtree that has been found. -/
structure Found (L : Law) (env : Setting) (v offset : Nat) (p : Parse) (state : ParseState)
    (found : Option (Tree × Option Entry)) : Prop where
  obeys : p.Obeys L
  going : Going v p
  current : state = p.stack.state v
  bytes : (p.stack.position v).bytes = offset
  waits : ∀ t entry, found = some (t, entry) →
    L.waits (p.stack.position v) t ∧ L.faces (p.stack.spot v) t
      ∧ entry = env.lang.entry? state t.firstSymbol

/-- **Looking for a subtree to take over keeps to the law.** -/
theorem findReusable_spec (hL : L.Advances env) {v offset : Nat} (fuel : Nat) :
    ∀ {p : Parse} {state : ParseState}, p.Obeys L → Going v p → state = p.stack.state v →
      (p.stack.position v).bytes = offset →
      Found L env v offset (findReusable env v offset fuel p state).1
        (findReusable env v offset fuel p state).2.1
        (findReusable env v offset fuel p state).2.2 := by
  induction fuel with
  | zero => exact fun h hgoing hstate hbytes => ⟨h, hgoing, hstate, hbytes, by simp [findReusable]⟩
  | succ fuel ih =>
    intro p state h hgoing hstate hbytes
    rw [findReusable]
    cases hwalk : p.walk with
    | nil => exact ⟨h, hgoing, hstate, hbytes, by simp⟩
    | cons s above =>
      have hspare : Spare L (s :: above) := hwalk ▸ h.walk
      simp only
      split
      · exact ⟨h, hgoing, hstate, hbytes, by simp⟩
      · next hbehind =>
        split
        · refine ih (h.withWalk _ ?_) hgoing hstate hbytes
          split
          · exact hspare.advance
          · cases hdescend : Tree.Walk.descend? (s :: above) with
            | none => exact hspare.advance
            | some w => exact hspare.descend hdescend
        · next hbefore =>
          split
          · split
            · next w hdescend =>
              exact ih (h.withWalk _ (hspare.descend hdescend)) hgoing hstate hbytes
            · obtain ⟨hbroken, -⟩ := breakDownTop_spec hL maxRounds false
                (h.withWalk (Tree.Walk.advance (s :: above)) hspare.advance) hgoing
              exact ih hbroken.obeys hbroken.going rfl (hbroken.bytes.trans hbytes)
          · next hkeep =>
            split
            · refine ⟨h, hgoing, hstate, hbytes, fun t entry heq => ?_⟩
              simp only [Option.some.injEq, Prod.mk.injEq] at heq
              obtain ⟨rfl, rfl⟩ := heq
              -- the subtree begins where the reading stands
              have hoffset : s.offset = (p.stack.position v).bytes := by omega
              have hat : L.spare (p.stack.spot v).position.bytes s.tree := hoffset ▸ hspare.1
              obtain ⟨hwaits, hfaces⟩ := hL.reuse hat (by simpa using hkeep)
                (h.stands (v := v) (by simp [hgoing.2])) (h.tops hgoing.1 hgoing.2)
              exact ⟨hwaits, hfaces, rfl⟩
            · refine ⟨h.withWalk _ ?_, hgoing, hstate, hbytes, by simp⟩
              rw [Tree.Walk.advancePastFirstToken]
              exact (hspare.descendWhile _ _).advance

end Parse

end SyntaxKit
