import SyntaxKit.Proofs.Parse.Advance

/-!
# Parsing keeps to the law

The rounds of a parse advance its readings, compare and join them, and begin recovery where all of
them wait.  A parse that begins within a law stays within it, and so the tree that is kept in the end
is one that the law allows to be kept (`Parse.whole_of_rounds`).
-/

namespace SyntaxKit

namespace Parse

variable {L : Law} {env : Setting} {p : Parse}

/-! ## Putting the readings in order -/

/-- The parse that comparing a pair of readings leaves. -/
def Paired.parse : Paired → Parse
  | .gone p => p
  | .both p => p
  | .earlierGone p => p

theorem Obeys.standing (h : p.Obeys L) (v : Nat) : (p.standing v).1.Obeys L :=
  ⟨(h.toSound.standing v).1, (h.toSound.standing v).2.placed h.placed⟩

theorem Obeys.merge (h : p.Obeys L) {lang : Language} {v w : Nat} {stack : Stack}
    (hmerge : p.stack.merge? lang v w = some stack) : ({ p with stack } : Parse).Obeys L := by
  obtain ⟨live, hs⟩ := h.stack
  obtain ⟨hs', hmerged⟩ := hs.merge hmerge
  exact ⟨h.withStack ⟨live, hs'⟩, h.placed.merged hs hmerged⟩

theorem Obeys.remove (h : p.Obeys L) (v : Nat) : (p.onStack (·.remove v)).Obeys L := by
  obtain ⟨live, hs⟩ := h.stack
  exact ⟨h.onStack ⟨live, hs.remove v⟩, h.placed.remove hs v⟩

theorem Obeys.pair (h : p.Obeys L) (env : Setting) {j i : Nat} (hj : j < p.stack.count)
    (hi : i < p.stack.count) (mine : Standing) : (p.pair env j i mine).parse.Obeys L := by
  have hobeys := h.standing j
  -- the reading at `i` is joined into the one at `j`, or left
  have hmerge : ∀ stack, (p.standing j).1.stack.merge? env.lang j i = some stack →
      ({ (p.standing j).1 with stack } : Parse).Obeys L := fun stack hstack => hobeys.merge hstack
  have hremove : ∀ k, ((p.standing j).1.onStack (·.remove k)).Obeys L := hobeys.remove
  rw [Parse.pair]
  simp only
  cases (p.standing j).2.compare mine with
  | takeLeft => exact hremove i
  | preferLeft | neither =>
    simp only
    split
    · next stack hstack => exact hmerge stack hstack
    · exact hobeys
  | preferRight =>
    simp only
    split
    · next stack hstack => exact hmerge stack hstack
    · obtain ⟨live, hs⟩ := hobeys.stack
      have hcount := (h.toSound.standing j).2.count
      have hswap : ((p.standing j).1.onStack (·.swap i j)).Obeys L :=
        ⟨hobeys.onStack ⟨live, hs.swap i j⟩,
          hobeys.placed.swap hs (hcount.symm ▸ hi) (hcount.symm ▸ hj)⟩
      exact hswap
  | takeRight => exact hremove j

/-- How many readings there are after a comparison that goes on. -/
theorem count_pair (h : p.Sound L) (env : Setting) (j i : Nat) (mine : Standing) :
    match p.pair env j i mine with
    | .gone _ => True
    | .both p' => p'.stack.count = p.stack.count
    | .earlierGone p' => p.stack.count - 1 ≤ p'.stack.count := by
  have hcount := (h.standing j).2.count
  rw [Parse.pair]
  simp only
  cases (p.standing j).2.compare mine with
  | takeLeft => trivial
  | preferLeft | neither =>
    simp only
    cases (p.standing j).1.stack.merge? env.lang j i with
    | none => exact hcount
    | some stack => trivial
  | preferRight =>
    simp only
    cases (p.standing j).1.stack.merge? env.lang j i with
    | none => simpa [Parse.onStack, Stack.swap] using hcount
    | some stack => trivial
  | takeRight =>
    show _ ≤ ((p.standing j).1.stack.remove j).count
    rw [Stack.count_remove, hcount]
    split <;> omega

theorem pairAll_obeys (env : Setting) (mine : Standing) (fuel : Nat) :
    ∀ {j i : Nat} {p : Parse}, p.Obeys L → i < p.stack.count →
      (pairAll env mine fuel j i p).1.Obeys L := by
  induction fuel with
  | zero => exact fun h _ => h
  | succ fuel ih =>
    intro j i p h hi
    rw [pairAll]
    split
    · exact h
    · next hj =>
      have hpair := h.pair env (Nat.lt_trans (Nat.lt_of_not_le hj) hi) hi mine
      have hcount := count_pair h.toSound env j i mine
      split
      · next p' heq =>
        rw [heq] at hpair
        exact hpair
      · next p' heq =>
        rw [heq] at hpair hcount
        exact ih hpair (by simpa [hcount] using hi)
      · next p' heq =>
        rw [heq] at hpair hcount
        exact ih hpair (by simp only at hcount; omega)

theorem pairEach_obeys (env : Setting) (fuel : Nat) :
    ∀ {i : Nat} {p : Parse} (least : Option Nat), p.Obeys L →
      (pairEach env fuel i p least).1.Obeys L := by
  induction fuel with
  | zero => exact fun _ h => h
  | succ fuel ih =>
    intro i p least h
    rw [pairEach]
    split
    · exact h
    · next hi =>
      split
      · exact ih least (h.remove i)
      · simp only
        refine ih _ (pairAll_obeys env _ _ (h.standing i) ?_)
        rw [(h.toSound.standing i).2.count]
        exact Nat.lt_of_not_le hi

/-! ## Beginning recovery -/

/-- A reading that waits goes on, in recovery. -/
theorem Obeys.resume (h : p.Obeys L) {i : Nat} {t : Tree}
    (hstatus : (p.stack.head i).status = .paused t) :
    Going i (p.onStack (·.resume i)) ∧ (p.onStack (·.resume i)).Obeys L
      ∧ L.waits ((p.onStack (·.resume i)).stack.position i) t := by
  obtain ⟨live, hs⟩ := h.stack
  have hi : i < p.stack.count := Stack.lt_of_not_active (by simp [hstatus])
  have hhead := hs.heads i id
  rw [Stack.HeadSound, hstatus] at hhead
  have hresumed : (p.stack.resume i).head i = { p.stack.head i with status := .active } := by
    rw [Stack.resume, Stack.head_setHead, if_pos ⟨rfl, hi⟩]
  have hposition : (p.stack.resume i).position i = p.stack.position i := by
    rw [Stack.position, Stack.top, hresumed]
    rfl
  refine ⟨⟨by simpa [onStack, Stack.resume] using hi, ?_⟩,
    ⟨h.onStack ⟨live, hs.resume (by simp [hstatus])⟩, h.placed.setHead i rfl (by simp [hstatus])⟩, ?_⟩
  · show ((p.stack.resume i).head i).status = _
    rw [hresumed]
  · show L.waits ((p.stack.resume i).position i) t
    rw [hposition]
    exact hhead.2

theorem resumeFirst_obeys (hL : L.Enters env) (htokens : 1 ≤ env.lang.tokenCount) (fuel : Nat) :
    ∀ {i n : Nat} {p : Parse} {going : Bool} {least : Option Nat}, p.Obeys L →
      (resumeFirst env fuel i n p going least).1.Obeys L := by
  induction fuel with
  | zero => exact fun h => h
  | succ fuel ih =>
    intro i n p going least h
    rw [resumeFirst]
    split
    · exact h
    · split
      · next t hstatus =>
        split
        · obtain ⟨hgoing, hresumed, hwaits⟩ := h.resume hstatus
          obtain ⟨hbegun, hmoved⟩ := hresumed.beginRecovery hL htokens hgoing.1 hgoing.2
            (hresumed.tops hgoing.1 hgoing.2) hwaits
          exact ih (hresumed.moved hbegun hmoved)
        · exact ih (h.remove i)
      · exact ih h

/-- The readings that are left when they have been compared. -/
def compared (env : Setting) (p : Parse) : Parse :=
  (pairEach env (2 * p.stack.count + 1) 0 p none).1.onStack
    fun s => { s with heads := s.heads.take maxReadings }

theorem Obeys.compared (h : p.Obeys L) (env : Setting) : (p.compared env).Obeys L := by
  have hpaired := pairEach_obeys env (2 * p.stack.count + 1) (i := 0) none h
  obtain ⟨live, hs⟩ := hpaired.stack
  exact ⟨hpaired.onStack ⟨live, hs.take maxReadings⟩, hpaired.placed.take hs maxReadings⟩

theorem condense_eq (env : Setting) (p : Parse) :
    p.condense env = resumeFirst env (2 * (p.compared env).stack.count + 1) 0
      (p.compared env).stack.count (p.compared env) false
      (pairEach env (2 * p.stack.count + 1) 0 p none).2 := rfl

theorem Obeys.condense (hL : L.Enters env) (htokens : 1 ≤ env.lang.tokenCount) (h : p.Obeys L) :
    (p.condense env).1.Obeys L := by
  rw [condense_eq]
  exact resumeFirst_obeys hL htokens _ (h.compared env)

/-! ## Rounds -/

theorem advanceReading_obeys (hL : L.Advances env) {v : Nat} {mayReuse : Bool} (fuel : Nat) :
    ∀ {p : Parse} {furthest : Nat}, Left L v p →
      (advanceReading env v mayReuse fuel p furthest).1.Obeys L := by
  induction fuel with
  | zero => exact fun h => h.1
  | succ fuel ih =>
    intro p furthest h
    rw [advanceReading]
    split
    · next hactive =>
      have hleft := h.1.advance hL ⟨h.2, Stack.status_of_isActive hactive⟩ mayReuse
      simp only
      split
      · exact hleft.1
      · exact ih hleft
    · exact h.1

theorem advanceReadings_obeys (hL : L.Advances env) (fuel : Nat) :
    ∀ (v : Nat) {p : Parse} (furthest : Nat), p.Obeys L →
      (advanceReadings env fuel v p furthest).1.Obeys L := by
  induction fuel with
  | zero => exact fun _ _ _ h => h
  | succ fuel ih =>
    intro v p furthest h
    rw [advanceReadings]
    simp only
    split
    · exact h
    · next hv => exact ih _ _ (advanceReading_obeys hL _ ⟨h, Nat.lt_of_not_le hv⟩)

/-- **A round keeps to the law.** -/
theorem Obeys.round (ha : L.Advances env) (he : L.Enters env) (htokens : 1 ≤ env.lang.tokenCount)
    (h : p.Obeys L) (furthest : Nat) : (p.round env furthest).1.Obeys L :=
  (advanceReadings_obeys ha env.maxSteps 0 furthest h).condense he htokens

/-- What holds after each round holds in the end. -/
theorem rounds_induction {q : Parse → Prop}
    (hround : ∀ (p : Parse) (furthest : Nat), q p → q (p.round env furthest).1) (fuel : Nat) :
    ∀ {p : Parse} {furthest : Nat}, q p → q (rounds env fuel p furthest) := by
  induction fuel with
  | zero => exact fun h => h
  | succ fuel ih =>
    intro p furthest h
    have hround := hround p furthest h
    rw [rounds]
    generalize p.round env furthest = advanced at hround
    obtain ⟨p', furthest', least, count⟩ := advanced
    simp only
    split
    · exact hround
    · exact ih hround

/-- The stack of a parse that has read nothing obeys every law that allows a stack to begin. -/
theorem sound_start (hL : L.stands Spot.origin) : Stack.start.Sound L (fun i => i = 0) where
  bound i hi := by
    rw [hi]
    exact Nat.zero_lt_one
  origin := rfl
  stands i hi := by
    rw [hi]
    exact hL
  links i hi l hl := by
    rw [hi] at hl
    simp [Stack.start, Stack.vertex] at hl
  bottom i hi _ := by
    rw [hi]
    exact ⟨rfl, rfl⟩
  heads v _ := by
    refine Stack.headSound_active ?_ ?_
    all_goals
      by_cases hv : v < Stack.start.count
      · have hv' : v = 0 := Nat.lt_one_iff.mp hv
        rw [hv']
        rfl
      · rw [Stack.head_of_le (Nat.le_of_not_lt hv)]
        rfl

/-- A parse begins within every law that allows it to take over what is at hand. -/
theorem begin_obeys (hstands : L.stands Spot.origin) (htops : L.tops Spot.origin)
    {old : Option Tree} (hold : ∀ t, old = some t → L.spare 0 t) : (Parse.begin old).Obeys L where
  stack := ⟨_, sound_start hstands⟩
  cached := by simp [Parse.begin]
  walk := by
    cases old with
    | none => trivial
    | some t =>
      have hstart : Spare L [⟨t, [], 0⟩] := ⟨hold t rfl, trivial, trivial⟩
      show Spare L (Tree.Walk.start t)
      rw [Tree.Walk.start]
      cases hdescend : Tree.Walk.descend? [⟨t, [], 0⟩] with
      | none => trivial
      | some w => exact hstart.descend hdescend
  finished := by simp [Parse.begin]
  placed v _ hlt _ := by
    obtain rfl : v = 0 := Nat.lt_one_iff.mp hlt
    exact htops

/-- **The tree that a parse ends with is one that the law allows to be kept.** -/
theorem whole_of_rounds (hL : L.Closed env) (htokens : 1 ≤ env.lang.tokenCount)
    {old : Option Tree} (hold : ∀ t, old = some t → L.spare 0 t) {fuel furthest : Nat} {t : Tree}
    (ht : (rounds env fuel (Parse.begin old) furthest).finished = some t) : L.whole t :=
  (rounds_induction (q := (·.Obeys L))
    (fun _ furthest h => h.round hL.advances hL.enters htokens furthest) fuel
    (begin_obeys hL.origin (hL.tops _) hold)).finished t ht

end Parse

end SyntaxKit
