import SyntaxKit.Proofs.Parse.Search

/-!
# Recovery keeps to the law

A reading that has met an error goes back to an earlier state, with what it pops wrapped as an error,
or skips tokens, which are gathered in a list; at the end of the text all of it is wrapped.  Going
back makes new readings at the end of the list and leaves those before them where they are, so that
the reading concerned can still skip.
-/

namespace SyntaxKit

namespace Parse

variable {L : Law} {env : Setting} {p : Parse}

/-! ## Comparing readings -/

theorem Sound.standing (h : p.Sound L) (v : Nat) :
    (p.standing v).1.Sound L ∧ Stack.Same p.stack (p.standing v).1.stack := by
  obtain ⟨live, hs⟩ := h.stack
  exact ⟨h.withStack ⟨live, hs.nodesSinceError v⟩, Stack.same_nodesSinceError p.stack v⟩

theorem dominatedFrom_spec (v position : Nat) (mine : Standing) (left : Nat) :
    ∀ {i : Nat} {p : Parse}, p.Sound L →
      (dominatedFrom v position mine left i p).1.Sound L
        ∧ Stack.Same p.stack (dominatedFrom v position mine left i p).1.stack := by
  induction left with
  | zero => exact fun h => ⟨h, .refl _⟩
  | succ left ih =>
    intro i p h
    rw [dominatedFrom]
    split
    · exact ih h
    · obtain ⟨hsound, hsame⟩ := h.standing i
      cases hstanding : p.standing i with
      | mk p' other =>
        rw [hstanding] at hsound hsame
        have hgo : (dominatedFrom v position mine left (i + 1) p').1.Sound L
            ∧ Stack.Same p.stack (dominatedFrom v position mine left (i + 1) p').1.stack := by
          obtain ⟨hsound', hsame'⟩ := ih (i := i + 1) hsound
          exact ⟨hsound', hsame.trans hsame'⟩
        simp only
        split
        · exact ⟨hsound, hsame⟩
        · split
          · exact ⟨hsound, hsame⟩
          · exact hgo
        · exact hgo

theorem Sound.isDominated (h : p.Sound L) (v : Nat) (inError : Bool) (cost : Nat) :
    (p.isDominated v inError cost).1.Sound L
      ∧ Stack.Same p.stack (p.isDominated v inError cost).1.stack := by
  rw [Parse.isDominated]
  split
  · exact ⟨h, .refl _⟩
  · obtain ⟨live, hs⟩ := h.stack
    obtain ⟨hsound, hsame⟩ := dominatedFrom_spec (L := L) v (p.stack.position v).bytes
      ⟨cost, (p.stack.nodesSinceError v).2, inError⟩ (p.stack.nodesSinceError v).1.count (i := 0)
      (p := { p with stack := (p.stack.nodesSinceError v).1 })
      (h.withStack ⟨live, hs.nodesSinceError v⟩)
    exact ⟨hsound, (Stack.same_nodesSinceError p.stack v).trans hsame⟩

/-! ## Going back -/

/-- What is in the error that was popped, if there was one. -/
def spilled : List Tree → List Tree
  | [] => []
  | e :: _ => e.children

/-- Pushes subtrees wrapped as an error, with the extras at their end behind it. -/
def pushWrapped (env : Setting) (goal : ParseState) (v : Nat) (trees : List Tree) (s : Stack) :
    Stack :=
  let (children, extras) := splitTrailingExtras trees
  extras.foldl (fun s t => s.push env.lang v (some t) false goal)
    (if children.isEmpty then s
    else s.push env.lang v (some ((Tree.ofChildren env.lang env.generation Symbol.error 0
      children).setExtra true)) false goal)

theorem wrapError_eq (env : Setting) (goal : ParseState) (p : Parse) (slice : Stack.Slice) :
    wrapError env goal p slice
      = match p.stack.popError slice.version with
        | (stack, errors) => { p with
          stack := pushWrapped env goal slice.version (spilled errors ++ slice.trees) stack } := rfl

/-- Pushing what the law allows to be wrapped. -/
theorem sound_pushWrapped (env : Setting) {live : Nat → Prop} {s : Stack} (hs : s.Sound L live)
    (goal : ParseState) {v : Nat} (hv : v < s.count) (hactive : (s.head v).status = .active)
    {trees children extras : List Tree} (hparts : splitTrailingExtras trees = (children, extras))
    (hwrap : if children = [] then L.Row goal (s.spot v) extras
      else L.step (s.spot v) (some ((Tree.ofChildren env.lang env.generation Symbol.error 0
            children).setExtra true))
          ((s.spot v).reach (some ((Tree.ofChildren env.lang env.generation Symbol.error 0
            children).setExtra true)) goal)
        ∧ L.Row goal ((s.spot v).reach (some ((Tree.ofChildren env.lang env.generation
            Symbol.error 0 children).setExtra true)) goal) extras) :
    (∃ live', (pushWrapped env goal v trees s).Sound L live')
      ∧ Stack.Touched v s (pushWrapped env goal v trees s)
      ∧ (pushWrapped env goal v trees s).spot v
        = Law.wrapped env goal (s.spot v) children extras := by
  rw [pushWrapped, hparts, Law.wrapped]
  cases children with
  | nil =>
    rw [if_pos rfl] at hwrap
    exact Stack.Sound.pushAll env.lang extras hs hv hactive hwrap
  | cons child rest =>
    rw [if_neg (by simp)] at hwrap
    obtain ⟨hstep, hrow⟩ := hwrap
    have hpushed := hs.push env.lang hactive _ false goal hstep (by simp)
    have hspot := Stack.spot_push s env.lang hv
      (some ((Tree.ofChildren env.lang env.generation Symbol.error 0
        (child :: rest)).setExtra true)) false goal
    obtain ⟨hsound, htouched, hend⟩ := Stack.Sound.pushAll env.lang extras hpushed
      (by simpa using hv) ((Stack.status_push ..).trans hactive) (by rw [hspot]; exact hrow)
    refine ⟨hsound, (Stack.touched_push ..).trans htouched, ?_⟩
    rw [if_neg (by simp), ← hspot]
    exact hend

/-- Wrapping what was popped, in the reading that stands in the state that is gone back to. -/
theorem Sound.wrapError (hL : L.Recovers env) (h : p.Sound L) {slice : Stack.Slice}
    (hv : slice.version < p.stack.count)
    (hactive : (p.stack.head slice.version).status = .active)
    (hgoal : p.stack.state slice.version ≠ ParseState.recovering) {b : Spot} {count : Nat}
    (hchain : L.Chain (p.stack.spot slice.version) slice.trees count b) (hpays : L.Pays b count) :
    (wrapError env (p.stack.state slice.version) p slice).Sound L
      ∧ Stack.Moved L slice.version p.stack
        (wrapError env (p.stack.state slice.version) p slice).stack := by
  obtain ⟨live, hs⟩ := h.stack
  obtain ⟨hsound, hstepped, hpopped⟩ := hs.popError hv hactive
  have hcount := p.stack.count_popError hv
  have hstands := h.stands (v := slice.version) (by simp [hactive])
  rw [wrapError_eq]
  generalize p.stack.popError slice.version = popped at hsound hstepped hpopped hcount
  obtain ⟨stack, errors⟩ := popped
  simp only at hsound hstepped hpopped hcount ⊢
  have hsound₁ : ({ p with stack } : Parse).Sound L := h.withStack ⟨live, hsound⟩
  have hstands₁ := hsound₁.stands (v := slice.version) (by simp [hstepped.active])
  -- the error below, if there is one, as the law speaks of it
  have herror : ∃ (error : Option Tree) (n : Nat),
      spilled errors = (error.map Tree.children).getD []
      ∧ (error = none ∧ stack.spot slice.version = p.stack.spot slice.version
        ∨ ∃ e, error = some e ∧ e.isError = true
          ∧ L.Chain (stack.spot slice.version) [e] n (p.stack.spot slice.version)) := by
    rcases hpopped with ⟨rfl, hspot⟩ | ⟨e, n, rfl, he, hchain'⟩
    · exact ⟨none, 0, rfl, .inl ⟨rfl, hspot⟩⟩
    · exact ⟨some e, n, rfl, .inr ⟨e, rfl, he, hchain'⟩⟩
  obtain ⟨error, n, hspilled, herror⟩ := herror
  obtain ⟨hsplit, hextras, hlast⟩ := splitTrailingExtras_spec (spilled errors ++ slice.trees)
  generalize hparts : splitTrailingExtras (spilled errors ++ slice.trees) = parts
    at hsplit hextras hlast
  obtain ⟨children, extras⟩ := parts
  obtain ⟨hwrap, htops⟩ :=
    hL.wrap hstands₁ hstands hgoal hchain herror (hspilled ▸ hsplit.symm) hextras hlast
  obtain ⟨hstack', htouched, hspot⟩ := sound_pushWrapped env hsound (p.stack.state slice.version)
    (hcount.symm ▸ hv) hstepped.active hparts hwrap
  refine ⟨hsound₁.withStack hstack',
    (Stack.Extends.of_vertices hstepped.vertices).trans htouched.toExtends, ?_, ?_, ?_⟩
  · rw [htouched.count, hcount]
  · exact fun w hw hne => (hstepped.others w hw hne).trans (htouched.others w hne)
  · intro w hw hlt _
    rw [htouched.count, hcount] at hlt
    obtain rfl : w = slice.version := hw.resolve_left (Nat.not_le.mpr hlt)
    rw [hspot]
    exact htops (hpays hchain)

/-- What is left to do in going back: the first `n` readings are as before, and every result whose
reading has not been dealt with is still where it came out. -/
structure Returning (L : Law) (n : Nat) (goal : ParseState) (b : Spot) (count : Nat) (s : Stack)
    (previous : Option Nat) (p : Parse) (slices : List Stack.Slice) : Prop where
  sound : p.Sound L
  kept : Stack.Kept n s p.stack
  results : ∀ sl ∈ slices, previous ≠ some sl.version →
    n ≤ sl.version ∧ sl.version < p.stack.count
      ∧ (p.stack.head sl.version).top < p.stack.vertices.size
      ∧ (p.stack.state sl.version = goal → (p.stack.head sl.version).status = .active)
      ∧ L.Chain (p.stack.spot sl.version) sl.trees count b
  sorted : slices.Pairwise fun x y => x.version ≤ y.version
  placed : ∀ w, n ≤ w → w < p.stack.count → (p.stack.head w).status ≠ .halted →
    L.tops (p.stack.spot w) ∨ ∃ sl ∈ slices, sl.version = w ∧ previous ≠ some w

/-- Going on with the next result when what was popped has been wrapped in the reading of this one. -/
theorem Returning.next {n : Nat} {goal : ParseState} {b : Spot} {count : Nat} {s : Stack}
    {previous : Option Nat} {p' : Parse} {slice : Stack.Slice} {rest : List Stack.Slice}
    (h : Returning L n goal b count s previous p (slice :: rest)) (hp' : p'.Sound L)
    (hn : n ≤ slice.version) (hmoved : Stack.Moved L slice.version p.stack p'.stack)
    (hprevious : ∀ u, previous = some u → u ≤ slice.version) :
    Returning L n goal b count s (some slice.version) p' rest := by
  obtain ⟨live, hs⟩ := h.sound.stack
  have hlater : ∀ sl ∈ rest, slice.version ≤ sl.version := (List.pairwise_cons.mp h.sorted).1
  refine ⟨hp', h.kept.trans ⟨hmoved.toExtends, Nat.le_trans h.kept.count hmoved.count, fun w hw =>
    hmoved.others w (Nat.lt_of_lt_of_le hw h.kept.count) (by omega)⟩, fun sl hsl hne => ?_,
    (List.pairwise_cons.mp h.sorted).2, fun w hw hlt hstatus => ?_⟩
  · have hversion : sl.version ≠ slice.version := fun heq => hne (by rw [heq])
    have hle := hlater sl hsl
    obtain ⟨hlow, hin, htop, hactive, hchain⟩ := h.results sl (List.mem_cons_of_mem _ hsl) fun hu =>
      hversion (Nat.le_antisymm (hprevious _ hu) hle)
    have hsame := hmoved.others sl.version hin hversion
    have hspot := hmoved.toExtends.spot hsame htop
    have hstate : p'.stack.state sl.version = p.stack.state sl.version := congrArg Spot.state hspot
    refine ⟨hlow, Nat.lt_of_lt_of_le hin hmoved.count, ?_, fun hgoal => ?_, ?_⟩
    · rw [hsame.1]
      exact Nat.lt_of_lt_of_le htop hmoved.size
    · rw [hsame.2]
      exact hactive (hstate ▸ hgoal)
    · rw [hspot]
      exact hchain
  · by_cases hnew : p.stack.count ≤ w ∨ w = slice.version
    · exact .inl (hmoved.placed w hnew hlt hstatus)
    · have hin : w < p.stack.count := by omega
      have hne : w ≠ slice.version := by omega
      obtain ⟨htop, hsame⟩ := hmoved.others w hin hne
      rw [hmoved.toExtends.spot ⟨htop, hsame⟩
        (hs.bound _ ((hs.heads w id).top_live (hsame ▸ hstatus)))]
      rcases h.placed w hw hin (hsame ▸ hstatus) with htops | ⟨sl, hsl, hversion, -⟩
      · exact .inl htops
      · rcases List.mem_cons.mp hsl with rfl | hsl
        · exact absurd hversion.symm hne
        · exact .inr ⟨sl, hsl, hversion, fun heq => hne (Option.some.inj heq).symm⟩

/-- Going on when the reading of a result is in another state than the one wanted and ends; other
results at the same place meet the same fate. -/
theorem Returning.halt {n : Nat} {goal : ParseState} {b : Spot} {count : Nat} {s : Stack}
    {previous : Option Nat} {slice : Stack.Slice} {rest : List Stack.Slice}
    (h : Returning L n goal b count s previous p (slice :: rest)) (hn : n ≤ slice.version)
    (hin : slice.version < p.stack.count) (hstate : p.stack.state slice.version ≠ goal) :
    Returning L n goal b count s previous (p.onStack (·.halt slice.version)) rest := by
  obtain ⟨live, hs⟩ := h.sound.stack
  have hhead : ∀ w, ((p.stack.halt slice.version).head w).top = (p.stack.head w).top
      ∧ (w ≠ slice.version → ((p.stack.halt slice.version).head w).status
        = (p.stack.head w).status) := by
    intro w
    rw [Stack.halt, Stack.head_setHead]
    split
    · next heq => exact ⟨by rw [heq.1], fun hne => absurd heq.1 hne⟩
    · exact ⟨rfl, fun _ => rfl⟩
  have hspot : ∀ w, (p.stack.halt slice.version).spot w = p.stack.spot w := fun w => by
    rw [Stack.spot, Stack.top, (hhead w).1]
    rfl
  have hcount : (p.stack.halt slice.version).count = p.stack.count := Stack.count_setHead ..
  refine ⟨h.sound.onStack ⟨live, hs.halt _⟩, ?_, fun sl hsl hne => ?_,
    (List.pairwise_cons.mp h.sorted).2, fun w hw hlt hstatus => ?_⟩
  · refine h.kept.trans (.of_vertices rfl (hcount ▸ h.kept.count) fun w hw => ?_)
    exact ⟨(hhead w).1, (hhead w).2 (by omega)⟩
  · obtain ⟨hlow, hin, htop, hactive, hchain⟩ := h.results sl (List.mem_cons_of_mem _ hsl) hne
    have hsame : (p.stack.halt slice.version).state sl.version = p.stack.state sl.version :=
      congrArg Spot.state (hspot sl.version)
    refine ⟨hlow, hcount.symm ▸ hin, ?_, fun hgoal => ?_, ?_⟩
    · show ((p.stack.halt slice.version).head sl.version).top < p.stack.vertices.size
      rw [(hhead sl.version).1]
      exact htop
    · have hgoal' : p.stack.state sl.version = goal := hsame ▸ hgoal
      refine ((hhead sl.version).2 fun heq => hstate ?_).trans (hactive hgoal')
      rw [← heq]
      exact hgoal'
    · show L.Chain ((p.stack.halt slice.version).spot sl.version) sl.trees count b
      rw [hspot]
      exact hchain
  · change w < (p.stack.halt slice.version).count at hlt
    change ((p.stack.halt slice.version).head w).status ≠ _ at hstatus
    have hne : w ≠ slice.version := by
      rintro rfl
      rw [Stack.halt, Stack.head_setHead, if_pos ⟨rfl, hin⟩] at hstatus
      exact hstatus rfl
    show L.tops ((p.stack.halt slice.version).spot w) ∨ _
    rw [hspot]
    rcases h.placed w hw (hcount ▸ hlt) ((hhead w).2 hne ▸ hstatus)
      with htops | ⟨sl, hsl, hversion, hprevious⟩
    · exact .inl htops
    · rcases List.mem_cons.mp hsl with rfl | hsl
      · exact absurd hversion.symm hne
      · exact .inr ⟨sl, hsl, hversion, hprevious⟩

theorem goBackSlices_spec (hL : L.Recovers env) {n : Nat} {goal : ParseState}
    (hgoal : goal ≠ ParseState.recovering) {b : Spot} {count : Nat} (hpays : L.Pays b count)
    {s : Stack} (slices : List Stack.Slice) :
    ∀ {p : Parse} {previous : Option Nat}, Returning L n goal b count s previous p slices →
      (∀ u, previous = some u → ∀ sl ∈ slices, u ≤ sl.version) →
      (goBackSlices env goal slices p previous).1.Sound L
        ∧ Stack.Kept n s (goBackSlices env goal slices p previous).1.stack
        ∧ (goBackSlices env goal slices p previous).1.stack.Placed L n := by
  induction slices with
  | nil =>
    refine fun h _ => ⟨h.sound, h.kept, fun w hw hlt hstatus => ?_⟩
    rcases h.placed w hw hlt hstatus with htops | ⟨sl, hsl, -⟩
    · exact htops
    · simp at hsl
  | cons slice rest ih =>
    intro p previous h hprevious
    have hlater : ∀ sl ∈ rest, slice.version ≤ sl.version := (List.pairwise_cons.mp h.sorted).1
    rw [goBackSlices]
    split
    · next hdone =>
      -- the reading has been dealt with
      refine ih ⟨h.sound, h.kept, fun sl hsl => h.results sl (List.mem_cons_of_mem _ hsl),
        (List.pairwise_cons.mp h.sorted).2, fun w hw hlt hstatus => ?_⟩ fun u hu sl hsl =>
          hprevious u hu sl (List.mem_cons_of_mem _ hsl)
      rcases h.placed w hw hlt hstatus with htops | ⟨sl, hsl, hversion, hne⟩
      · exact .inl htops
      · rcases List.mem_cons.mp hsl with rfl | hsl
        · exact absurd (hversion ▸ hdone) hne
        · exact .inr ⟨sl, hsl, hversion, hne⟩
    · next hnew =>
      obtain ⟨hn, hin, htop, hactive, hchain⟩ := h.results slice (List.mem_cons_self ..) hnew
      split
      · next hstate =>
        exact ih (h.halt hn hin hstate) fun u hu sl hsl =>
          hprevious u hu sl (List.mem_cons_of_mem _ hsl)
      · next hstate =>
        have hstate : p.stack.state slice.version = goal := by simpa using hstate
        have hwrapped := h.sound.wrapError hL hin (hactive hstate) (by rw [hstate]; exact hgoal)
          hchain hpays
        rw [hstate] at hwrapped
        obtain ⟨hsound, hmoved⟩ := hwrapped
        refine ih (h.next hsound hn hmoved fun u hu => hprevious u hu slice (List.mem_cons_self ..))
          fun u hu => ?_
        simp only [Option.some.injEq] at hu
        exact hu ▸ hlater

/-- **Going back keeps to the law** and leaves the readings that were there as they were. -/
theorem Sound.goBack (hL : L.Recovers env) (h : p.Sound L) {v : Nat}
    (hv : (p.stack.head v).status ≠ .halted) {depth : Nat} (hpays : L.Pays (p.stack.spot v) depth)
    {goal : ParseState} (hgoal : goal ≠ ParseState.recovering) :
    (goBack env p v depth goal).1.Sound L
      ∧ Stack.Kept p.stack.count p.stack (goBack env p v depth goal).1.stack
      ∧ (goBack env p v depth goal).1.stack.Placed L p.stack.count := by
  obtain ⟨live, hs⟩ := h.stack
  have hpopped := hs.popCount hv depth
  have hsound := hpopped.sound hs fun q hq => hq.1.1
  rw [Parse.goBack]
  generalize p.stack.popCount v depth = popped at hpopped hsound
  obtain ⟨stack, slices⟩ := popped
  refine goBackSlices_spec hL hgoal hpays slices
    ⟨h.withStack ⟨live, hsound⟩, hpopped.kept, fun sl hsl _ => ?_, hpopped.sorted,
      fun w hw hlt _ => ?_⟩ (by simp)
  · obtain ⟨hlow, hhigh, -⟩ := hpopped.results sl hsl
    obtain ⟨q, ⟨-, hcount, -⟩, -, hchain⟩ := hpopped.chain (fun q hq => hq.1) hsl
    have hactive := (hpopped.new sl.version hlow hhigh).1
    exact ⟨hlow, hhigh, hsound.bound _ ((hsound.heads _ id).top_live (by simp [hactive])),
      fun _ => hactive, hcount ▸ hchain⟩
  · obtain ⟨sl, hsl, hversion⟩ := hpopped.covered w hw hlt
    exact .inr ⟨sl, hsl, hversion, by simp⟩

/-- Whoever goes back to one of the noted states that is further down in the text pays for it. -/
def PaysFor (L : Law) (b : Spot) (entries : List SummaryEntry) : Prop :=
  ∀ e ∈ entries, e.state ≠ ParseState.recovering → e.position.bytes ≠ b.position.bytes →
    L.Pays b e.depth ∧ L.Pays b (e.depth + 1)

theorem tryGoBack_spec (hL : L.Recovers env) {n v : Nat} (hv : v < n) (token : Symbol) {b : Spot}
    (cost nodes readings : Nat) (entries : List SummaryEntry) (hpays : PaysFor L b entries) :
    ∀ {p : Parse}, p.Sound L → n ≤ p.stack.count → (p.stack.head v).status ≠ .halted →
      p.stack.spot v = b → p.stack.Placed L n →
      (tryGoBack env v token b.position cost nodes readings entries p).1.Sound L
        ∧ Stack.Kept n p.stack
          (tryGoBack env v token b.position cost nodes readings entries p).1.stack
        ∧ (tryGoBack env v token b.position cost nodes readings entries p).1.stack.Placed L n := by
  induction entries with
  | nil => exact fun h hn _ _ hplaced => ⟨h, .refl hn, hplaced⟩
  | cons e rest ih =>
    intro p h hn hstatus hb hplaced
    replace ih := @ih fun x hx => hpays x (List.mem_cons_of_mem _ hx)
    rw [tryGoBack]
    simp only
    split
    · exact ih h hn hstatus hb hplaced
    · next hskip =>
      simp only [Bool.or_eq_true, decide_eq_true_eq, not_or] at hskip
      obtain ⟨⟨hgoal, hbytes⟩, -⟩ := hskip
      obtain ⟨hpay, hpay'⟩ := hpays e (List.mem_cons_self ..) hgoal hbytes
      obtain ⟨hsound, hsame⟩ := h.isDominated v false (cost + e.depth * prices.skippedTree
        + (b.position.bytes - e.position.bytes) * prices.skippedByte
        + (b.position.point.row - e.position.point.row) * prices.skippedLine)
      have hkept := hsame.kept hn
      have hplaced := hsame.placed hplaced
      generalize p.isDominated v false (cost + e.depth * prices.skippedTree
        + (b.position.bytes - e.position.bytes) * prices.skippedByte
        + (b.position.point.row - e.position.point.row) * prices.skippedLine) = compared
        at hsound hkept hplaced
      obtain ⟨p₁, dominated⟩ := compared
      obtain ⟨live, hs⟩ := h.stack
      simp only at hsound hkept hplaced ⊢
      -- what is left to be tried starts from a parse that has kept the first readings
      have hgo : ∀ {p' : Parse}, p'.Sound L → Stack.Kept n p.stack p'.stack →
          p'.stack.Placed L n →
          (tryGoBack env v token b.position cost nodes readings rest p').1.Sound L
            ∧ Stack.Kept n p.stack
              (tryGoBack env v token b.position cost nodes readings rest p').1.stack
            ∧ (tryGoBack env v token b.position cost nodes readings rest p').1.stack.Placed L n := by
        intro p' hp' hkept hplaced
        obtain ⟨hsound, hkept', hplaced'⟩ := ih hp' hkept.count
          (by rw [(hkept.heads v hv).2]; exact hstatus) ((hkept.spot_eq hs hv hstatus).trans hb)
          hplaced
        exact ⟨hsound, hkept.trans hkept', hplaced'⟩
      split
      · exact ⟨hsound, hkept, hplaced⟩
      · split
        · have hback : (goBack env p₁ v (if 0 < nodes then e.depth + 1 else e.depth) e.state).1.Sound L
              ∧ Stack.Kept p₁.stack.count p₁.stack
                (goBack env p₁ v (if 0 < nodes then e.depth + 1 else e.depth) e.state).1.stack
              ∧ (goBack env p₁ v (if 0 < nodes then e.depth + 1 else e.depth)
                e.state).1.stack.Placed L p₁.stack.count := by
            refine hsound.goBack hL (by rw [(hkept.heads v hv).2]; exact hstatus) ?_ hgoal
            rw [(hkept.spot_eq hs hv hstatus).trans hb]
            split
            · exact hpay'
            · exact hpay
          obtain ⟨live₁, hs₁⟩ := hsound.stack
          generalize goBack env p₁ v (if 0 < nodes then e.depth + 1 else e.depth) e.state = back
            at hback
          obtain ⟨p₂, wentBack⟩ := back
          obtain ⟨hsound₂, hkept₂, hnew₂⟩ := hback
          have hplaced₂ := hplaced.of_kept hs₁ hkept₂ (Nat.le_refl _) hnew₂
          have hkept₂ := hkept.trans (hkept₂.mono hkept.count)
          cases wentBack with
          | true => exact ⟨hsound₂, hkept₂, hplaced₂⟩
          | false => exact hgo hsound₂ hkept₂ hplaced₂
        · exact hgo hsound hkept hplaced

theorem removeInactive_spec {n : Nat} (fuel : Nat) :
    ∀ {i : Nat} {p : Parse}, n ≤ i → p.Sound L → n ≤ p.stack.count → p.stack.Placed L n →
      (removeInactive fuel i p).Sound L
        ∧ Stack.Kept n p.stack (removeInactive fuel i p).stack
        ∧ (removeInactive fuel i p).stack.Placed L n := by
  induction fuel with
  | zero => exact fun _ h hn hplaced => ⟨h, .refl hn, hplaced⟩
  | succ fuel ih =>
    intro i p hi h hn hplaced
    rw [removeInactive]
    split
    · exact ⟨h, .refl hn, hplaced⟩
    · split
      · exact ih (by omega) h hn hplaced
      · obtain ⟨live, hs⟩ := h.stack
        have hkept := Stack.kept_remove hi hn
        obtain ⟨hsound, hkept', hplaced'⟩ := ih hi (p := p.onStack (·.remove i))
          (h.onStack ⟨live, hs.remove i⟩) hkept.count (hplaced.remove hs i)
        exact ⟨hsound, hkept.trans hkept', hplaced'⟩

/-! ## Skipping -/

/-- Skipping a token when nothing has been skipped before, or when what has been skipped is left as it
is. -/
theorem Sound.pushSkipped (hL : L.Recovers env) (h : p.Sound L) {v : Nat} (hv : v < p.stack.count)
    (hactive : (p.stack.head v).status = .active) {t : Tree}
    (ht : L.Part (p.stack.position v) t) :
    (p.onStack (·.push env.lang v (some (Law.skippedOver env t)) false
        ParseState.recovering)).Sound L
      ∧ Stack.Moved L v p.stack (p.onStack (·.push env.lang v (some (Law.skippedOver env t)) false
        ParseState.recovering)).stack := by
  obtain ⟨live, hs⟩ := h.stack
  obtain ⟨hstep, htops⟩ := hL.skip (h.stands (v := v) (by simp [hactive])) ht
  have hpushed := hs.push env.lang hactive _ false _ hstep (by simp)
  refine ⟨h.onStack ⟨_, hpushed⟩, (Stack.touched_push ..).moved_of_tops ?_⟩
  rw [Stack.spot_push p.stack env.lang hv]
  exact htops

/-- The parse in which what lies on top of a reading has been popped, and what was popped. -/
def dropTop (p : Parse) (v : Nat) : Option (Stack × List Tree) :=
  match p.stack.popCount v 1 with
  | (_, []) => none
  | (stack, first :: others) =>
    let stack :=
      if others.isEmpty then stack
      else { stack with heads := stack.heads.take (first.version + 1) }
    some (stack.replace first.version v, first.trees)

theorem skipToken_eq (env : Setting) (p : Parse) (v : Nat) (t : Tree) (nodes : Nat) :
    Parse.skipToken env p v t nodes
      = if 0 < nodes then
          match dropTop p v with
          | none => ({ p with stack := (p.stack.popCount v 1).1 } : Parse).onStack
              (·.push env.lang v (some (Law.skippedOver env t)) false ParseState.recovering)
          | some (stack, trees) => ({ p with stack } : Parse).onStack
              (·.push env.lang v (some (Tree.ofChildren env.lang env.generation Symbol.skipped 0
                (trees ++ [Law.skippedOver env t]))) false ParseState.recovering)
        else p.onStack
          (·.push env.lang v (some (Law.skippedOver env t)) false ParseState.recovering) := by
  rw [Parse.skipToken, dropTop]
  by_cases hnodes : 0 < nodes
  · simp only [if_pos hnodes]
    generalize p.stack.popCount v 1 = popped
    obtain ⟨stack, _ | ⟨first, others⟩⟩ := popped <;> rfl
  · simp only [if_neg hnodes]
    rfl

/-- What lies on top has been popped, and the reading stands below. -/
theorem Sound.dropTop (h : p.Sound L) {v : Nat} (hv : v < p.stack.count)
    (hactive : (p.stack.head v).status = .active) {stack : Stack} {trees : List Tree}
    (hdrop : dropTop p v = some (stack, trees)) :
    ({ p with stack } : Parse).Sound L ∧ stack.count = p.stack.count
      ∧ Stack.Extends p.stack stack
      ∧ (∀ w < p.stack.count, w ≠ v → Stack.SameHead p.stack stack w)
      ∧ (stack.head v).status = .active
      ∧ ∃ n, L.Chain (stack.spot v) trees n (p.stack.spot v) := by
  obtain ⟨live, hs⟩ := h.stack
  have hpopped := hs.popCount (v := v) (by simp [hactive]) 1
  have hsound := hpopped.sound hs fun q hq => hq.1.1
  rw [Parse.dropTop] at hdrop
  generalize p.stack.popCount v 1 = popped at hpopped hsound hdrop
  obtain ⟨s', _ | ⟨first, others⟩⟩ := popped
  · simp at hdrop
  · obtain ⟨hversion, honly⟩ := hpopped.first_version
    obtain ⟨-, hhigh, -⟩ := hpopped.results first (List.mem_cons_self ..)
    obtain ⟨q, -, -, hchain⟩ := hpopped.chain (fun q hq => hq.1) (List.mem_cons_self ..)
    have hnew := (hpopped.new _ (Nat.le_of_eq hversion.symm) hhigh).1
    have hvertices : s'.vertices = p.stack.vertices := hpopped.vertices
    have hold : ∀ w < p.stack.count, s'.head w = p.stack.head w := hpopped.old
    simp only [Option.some.injEq, Prod.mk.injEq] at hdrop hhigh honly hnew hchain hsound
    obtain ⟨rfl, rfl⟩ := hdrop
    -- the readings behind the first result are struck off
    generalize hcut : (if others.isEmpty = true then s'
      else { s' with heads := s'.heads.take (first.version + 1) }) = cut
    have hcut' : cut.Sound L live ∧ (∀ w ≤ first.version, cut.head w = s'.head w)
        ∧ cut.vertices = s'.vertices ∧ cut.count = p.stack.count + 1 := by
      rw [← hcut]
      split
      · next hempty => exact ⟨hsound, fun _ _ => rfl, rfl, honly hempty⟩
      · refine ⟨hsound.take _, fun w hw => ?_, rfl, ?_⟩
        · rw [Stack.head_take, if_pos (by omega)]
        · simp only [Stack.count, Array.take_eq_extract, Array.size_extract] at hhigh hversion ⊢
          omega
    obtain ⟨hcutSound, hcutHead, hcutVertices, hcutCount⟩ := hcut'
    have hbelow : v < first.version := hversion.symm ▸ hv
    have hhead := Stack.head_replace (s := cut) hbelow (by omega)
    have hv' := hhead v
    rw [if_pos rfl, hcutHead _ (Nat.le_refl _)] at hv'
    have hvertices' : (cut.replace first.version v).vertices = p.stack.vertices := by
      rw [Stack.vertices_replace, hcutVertices, hvertices]
    refine ⟨h.withStack ⟨live, hcutSound.replace _ v⟩, ?_, .of_vertices hvertices',
      fun w hw hne => ?_, hv'.2.trans hnew, q.count, ?_⟩
    · rw [Stack.count_replace (by omega) (by omega), hcutCount]
      rfl
    · have hw' := hhead w
      rwa [if_neg hne, if_pos (by omega), hcutHead w (by omega), hold w hw] at hw'
    · have hspot : (cut.replace first.version v).spot v = s'.spot first.version := by
        rw [Stack.spot, Stack.spot, Stack.top, Stack.top, hv'.1, Stack.vertex, Stack.vertex,
          hvertices', hvertices]
      rw [hspot]
      exact hchain

/-- **Skipping a token keeps to the law.** -/
theorem Sound.skipToken (hL : L.Recovers env) (h : p.Sound L) {v : Nat} (hv : v < p.stack.count)
    (hactive : (p.stack.head v).status = .active) {t : Tree} (ht : L.Part (p.stack.position v) t)
    (nodes : Nat) :
    (Parse.skipToken env p v t nodes).Sound L
      ∧ Stack.Moved L v p.stack (Parse.skipToken env p v t nodes).stack := by
  obtain ⟨live, hs⟩ := h.stack
  have hstands := h.stands (v := v) (by simp [hactive])
  rw [skipToken_eq]
  split
  · cases hdrop : Parse.dropTop p v with
    | none =>
      -- nothing came out, so that nothing has changed
      have hpopped := hs.popCount (v := v) (by simp [hactive]) 1
      have hsound := hpopped.sound hs fun q hq => hq.1.1
      have hnil : (p.stack.popCount v 1).2 = [] := by
        rw [Parse.dropTop] at hdrop
        generalize p.stack.popCount v 1 = popped at hdrop
        obtain ⟨s', _ | ⟨first, others⟩⟩ := popped
        · rfl
        · simp at hdrop
      have hcount : (p.stack.popCount v 1).1.count = p.stack.count := by
        refine Nat.le_antisymm (Nat.le_of_not_lt fun hlt => ?_) hpopped.count
        obtain ⟨sl, hsl, -⟩ := hpopped.covered _ (Nat.le_refl _) hlt
        simp [hnil] at hsl
      have hsame := hpopped.kept.heads v hv
      have hposition : (p.stack.popCount v 1).1.position v = p.stack.position v :=
        congrArg Spot.position (hpopped.kept.spot_eq hs hv (by simp [hactive]))
      obtain ⟨hpushed, hmoved⟩ := Sound.pushSkipped hL
        (p := { p with stack := (p.stack.popCount v 1).1 }) (h.withStack ⟨live, hsound⟩)
        (Nat.lt_of_lt_of_le hv hpopped.count) (hsame.2.trans hactive) (by rw [hposition]; exact ht)
      exact ⟨hpushed, .of_kept hpopped.kept hsound (fun w hw hlt => by omega) hmoved⟩
    | some dropped =>
      obtain ⟨stack, trees⟩ := dropped
      obtain ⟨hsound, hcount, hextends, hothers, hactive', n, hchain⟩ := h.dropTop hv hactive hdrop
      obtain ⟨live', hs'⟩ := hsound.stack
      obtain ⟨hstep, htops⟩ := hL.skipOver (hsound.stands (v := v) (by simp [hactive'])) hstands
        hchain ht
      have hpushed := hs'.push env.lang hactive' _ false _ hstep (by simp)
      have htouched := Stack.touched_push stack env.lang v
        (some (Tree.ofChildren env.lang env.generation Symbol.skipped 0
          (trees ++ [Law.skippedOver env t]))) false ParseState.recovering
      refine ⟨hsound.withStack ⟨_, hpushed⟩, hextends.trans htouched.toExtends, ?_, ?_, ?_⟩
      · exact Nat.le_of_eq (htouched.count.trans hcount).symm
      · exact fun w hw hne => (hothers w hw hne).trans (htouched.others w hne)
      · intro w hw hlt _
        have hlt' : w < p.stack.count := hcount ▸ htouched.count ▸ hlt
        obtain rfl : w = v := hw.resolve_left (Nat.not_le.mpr hlt')
        show L.tops ((stack.push _ _ _ _ _).spot w)
        rw [Stack.spot_push stack env.lang (hcount.symm ▸ hv)]
        exact htops
  · exact h.pushSkipped hL hv hactive ht

/-- At the end of the text everything is wrapped as an error, and the reading ends. -/
theorem Sound.giveUp (hL : L.Recovers env) (h : p.Sound L) {v : Nat} (hv : v < p.stack.count)
    (hactive : (p.stack.head v).status = .active) {t : Tree} (ht : L.Part (p.stack.position v) t)
    (hend : t.isEndOfText = true) {p' : Parse}
    (hp' : p' = p.onStack (·.push env.lang v
      (some (Tree.ofChildren env.lang env.generation Symbol.error 0 [])) false ParseState.initial)) :
    (p'.accept env v t).Sound L ∧ Stack.Moved L v p.stack (p'.accept env v t).stack := by
  obtain ⟨live, hs⟩ := h.stack
  have hbut : Stack.SoundBut L live (fun w => w = v) p.stack :=
    hs.of_vertices rfl fun w _ => hs.heads w id
  have hlive := (hs.heads v id).top_live (by simp [hactive])
  have hstands := h.stands (v := v) (by simp [hactive])
  generalize hwrapper : Tree.ofChildren env.lang env.generation Symbol.error 0 [] = wrapper at hp'
  have hstack : p'.stack = p.stack.push env.lang v (some wrapper) false ParseState.initial := by
    rw [hp']
    rfl
  have htouched : Stack.Touched v p.stack p'.stack := hstack ▸ Stack.touched_push ..
  have htop := (Stack.head_push p.stack env.lang hv (some wrapper) false ParseState.initial).1
  have hcapped : Stack.Capped p'.stack (p.stack.head v).top (p'.stack.head v).top [wrapper] := by
    rw [hstack, htop]
    refine @Stack.Capped.linked _ _ _ (p.stack.head v).top wrapper [] ?_ .here
    rw [Stack.vertex_push, if_pos rfl, Stack.links_above]
  have hspot : (p'.stack.vertex (p.stack.head v).top).spot = p.stack.spot v :=
    htouched.spots _ (hs.bound _ hlive)
  have hdead : Stack.SoundBut L live (fun w => w = v) p'.stack :=
    hstack ▸ hbut.push_dead env.lang (some wrapper) false ParseState.initial
  have hdone := Sound.accept env t hdead (by rw [hp']; exact h.cached)
    (by rw [hp']; exact h.walk) (by rw [hp']; exact h.finished) (htouched.count.symm ▸ hv) hlive
    hcapped fun ts n root hchain hroot => by
      rw [hspot] at hchain
      exact hL.giveUp hchain hstands ht hend (hwrapper.symm ▸ hroot)
  exact ⟨hdone.1, htouched.moved hdone.2.2⟩

/-- Going back where that is possible, as the first thing done with a token in recovery; says whether
it was possible. -/
def goBackFirst (env : Setting) (p : Parse) (v : Nat) (t : Tree) : Parse × Bool :=
  let readings := p.stack.count
  let position := p.stack.position v
  let (stack, nodes) := p.stack.nodesSinceError v
  let p := { p with stack }
  let cost := p.stack.errorCost v
  let (p, wentBack) :=
    match (p.stack.head v).summary, t.isError with
    | some summary, false => tryGoBack env v t.symbol position cost nodes readings summary p
    | _, _ => (p, false)
  (removeInactive (p.stack.count + 1) readings p, wentBack)

/-- What is done after that. -/
def giveUpOrSkip (env : Setting) (v : Nat) (t : Tree) (cost nodes : Nat) (wentBack : Bool)
    (p : Parse) : Parse :=
  if t.isEndOfText then
    let wrapper := Tree.ofChildren env.lang env.generation Symbol.error 0 []
    let p := p.onStack (·.push env.lang v (some wrapper) false ParseState.initial)
    p.accept env v t
  else if wentBack && maxReadings < p.stack.count then p.onStack (·.halt v)
  else
    let newCost := cost + prices.skippedTree + t.totalSize.bytes * prices.skippedByte
      + t.totalSize.point.row * prices.skippedLine
    let (p, dominated) := p.isDominated v false newCost
    if dominated then p.onStack (·.halt v)
    else skipToken env p v t nodes

theorem recover_eq (env : Setting) (p : Parse) (v : Nat) (t : Tree) :
    p.recover env v t
      = giveUpOrSkip env v t ((p.stack.nodesSinceError v).1.errorCost v)
        (p.stack.nodesSinceError v).2 (goBackFirst env p v t).2 (goBackFirst env p v t).1 := by
  simp only [Parse.recover, giveUpOrSkip, goBackFirst]
  congr 1

theorem summary_nodesSinceError (s : Stack) (v : Nat) :
    ((s.nodesSinceError v).1.head v).summary = (s.head v).summary := by
  rw [Stack.nodesSinceError]
  split
  · show ((s.setHead v _).head v).summary = _
    rw [Stack.head_setHead]
    split <;> rfl
  · rfl

theorem Sound.goBackFirst (hL : L.Recovers env) (h : p.Sound L) {v : Nat} (hv : v < p.stack.count)
    (hactive : (p.stack.head v).status = .active)
    (hpays : ∀ summary, (p.stack.head v).summary = some summary →
      PaysFor L (p.stack.spot v) summary) (t : Tree) :
    (Parse.goBackFirst env p v t).1.Sound L
      ∧ Stack.Kept p.stack.count p.stack (Parse.goBackFirst env p v t).1.stack
      ∧ (Parse.goBackFirst env p v t).1.stack.Placed L p.stack.count := by
  obtain ⟨live, hs⟩ := h.stack
  have hsame := Stack.same_nodesSinceError p.stack v
  have hkept := hsame.kept (Nat.le_refl p.stack.count)
  have hsound : ({ p with stack := (p.stack.nodesSinceError v).1 } : Parse).Sound L :=
    h.withStack ⟨live, hs.nodesSinceError v⟩
  have hactive' : ((p.stack.nodesSinceError v).1.head v).status = .active :=
    (hkept.heads v hv).2.trans hactive
  have hspot := hkept.spot_eq hs hv (by simp [hactive])
  have hnone : (p.stack.nodesSinceError v).1.Placed L p.stack.count :=
    fun w hw hlt => absurd (hsame.count ▸ hlt) (Nat.not_lt.mpr hw)
  -- striking off the readings that do not go on
  have hremove : ∀ {p' : Parse}, p'.Sound L → Stack.Kept p.stack.count p.stack p'.stack →
      p'.stack.Placed L p.stack.count →
      (removeInactive (p'.stack.count + 1) p.stack.count p').Sound L
        ∧ Stack.Kept p.stack.count p.stack
          (removeInactive (p'.stack.count + 1) p.stack.count p').stack
        ∧ (removeInactive (p'.stack.count + 1) p.stack.count p').stack.Placed L p.stack.count := by
    intro p' hp' hkept' hplaced
    obtain ⟨hsound', hkept'', hplaced'⟩ := removeInactive_spec (L := L) (p'.stack.count + 1)
      (Nat.le_refl p.stack.count) hp' hkept'.count hplaced
    exact ⟨hsound', hkept'.trans hkept'', hplaced'⟩
  rw [Parse.goBackFirst]
  simp only
  split
  · next summary hsummary _ =>
    rw [summary_nodesSinceError] at hsummary
    obtain ⟨hback, hkept', hplaced⟩ := tryGoBack_spec hL hv t.symbol
      ((p.stack.nodesSinceError v).1.errorCost v) (p.stack.nodesSinceError v).2 p.stack.count
      summary (hpays summary hsummary) hsound hkept.count (by simp [hactive']) hspot hnone
    exact hremove hback (hkept.trans hkept') hplaced
  · exact hremove hsound hkept hnone

theorem Sound.giveUpOrSkip (hL : L.Recovers env) (h : p.Sound L) {v : Nat} (hv : v < p.stack.count)
    (hactive : (p.stack.head v).status = .active) {t : Tree} (ht : L.Part (p.stack.position v) t)
    (cost nodes : Nat) (wentBack : Bool) :
    (Parse.giveUpOrSkip env v t cost nodes wentBack p).Sound L
      ∧ Stack.Moved L v p.stack (Parse.giveUpOrSkip env v t cost nodes wentBack p).stack := by
  obtain ⟨live, hs⟩ := h.stack
  rw [Parse.giveUpOrSkip]
  split
  · next hend => exact h.giveUp hL hv hactive ht hend rfl
  · split
    · exact ⟨h.onStack ⟨live, hs.halt v⟩, Stack.moved_halt hv (.refl _)⟩
    · obtain ⟨hsound, hsame⟩ := h.isDominated v false (cost + prices.skippedTree
        + t.totalSize.bytes * prices.skippedByte + t.totalSize.point.row * prices.skippedLine)
      have hkept := hsame.kept (Nat.le_refl p.stack.count)
      have hv' := Nat.lt_of_lt_of_le hv hkept.count
      obtain ⟨live', hs'⟩ := hsound.stack
      simp only
      split
      · exact ⟨hsound.onStack ⟨live', hs'.halt v⟩, Stack.moved_halt hv hsame⟩
      · have hspot := hkept.spot_eq hs hv (by simp [hactive])
        rw [← Stack.position_spot, ← hspot] at ht
        obtain ⟨hskipped, hmoved⟩ :=
          hsound.skipToken hL hv' ((hkept.heads v hv).2.trans hactive) ht nodes
        exact ⟨hskipped, .of_kept hkept hs'
          (fun w hw hlt => absurd (hsame.count ▸ hlt) (Nat.not_lt.mpr hw)) hmoved⟩

/-- **Dealing with a token in recovery keeps to the law.** -/
theorem Sound.recover (hL : L.Recovers env) (h : p.Sound L) {v : Nat} (hv : v < p.stack.count)
    (hactive : (p.stack.head v).status = .active) {t : Tree}
    (ht : L.Part (p.stack.position v) t)
    (hpays : ∀ summary, (p.stack.head v).summary = some summary →
      PaysFor L (p.stack.spot v) summary) :
    (Parse.recover env p v t).Sound L
      ∧ Stack.Moved L v p.stack (Parse.recover env p v t).stack := by
  obtain ⟨live, hs⟩ := h.stack
  obtain ⟨hsound, hkept, hplaced⟩ := h.goBackFirst hL hv hactive hpays t
  obtain ⟨live', hs'⟩ := hsound.stack
  have hspot := hkept.spot_eq hs hv (by simp [hactive])
  rw [← Stack.position_spot, ← hspot] at ht
  rw [recover_eq]
  obtain ⟨hdone, hmoved⟩ := hsound.giveUpOrSkip hL (Nat.lt_of_lt_of_le hv hkept.count)
    ((hkept.heads v hv).2.trans hactive) ht ((p.stack.nodesSinceError v).1.errorCost v)
    (p.stack.nodesSinceError v).2 (Parse.goBackFirst env p v t).2
  exact ⟨hdone, .of_kept hkept hs' hplaced hmoved⟩

/-- A reading that stands where it may has paid already. -/
theorem paysFor_of_tops {b : Spot} (h : L.tops b) (entries : List SummaryEntry) :
    PaysFor L b entries :=
  fun _ _ _ _ => ⟨fun _ => .inl h, fun _ => .inl h⟩

end Parse

end SyntaxKit
