import SyntaxKit.Proofs.Parse.Stack

/-!
# Popping

Every path that is followed down from a reading of a sound stack passes subtrees that lie on one
another as the law says (`Stack.chain_of_walk`).  Popping turns the ends of paths into readings:
`Stack.Popped` says that these are new, that they go on, and that the subtrees of each result lie
between the place where its reading stands now and the place that was popped from.
-/

namespace SyntaxKit

namespace Stack

variable {L : Law} {live : Nat → Prop}

/-! ## Following paths -/

section Walk

variable {σ : Type} {s : Stack} {judge : σ → Path → σ × Verdict} {P T : Path → Prop}

/-- What holds of a path that is followed over one more link. -/
def FollowsTo (s : Stack) (judge : σ → Path → σ × Verdict) (P : Path → Prop) : Prop :=
  ∀ st p, P p → (judge st p).2.stop = false → ∀ link ∈ (s.vertex p.vertex).links, P (p.follow link)

/-- What holds of a path that is taken as a result. -/
def TakenAs (judge : σ → Path → σ × Verdict) (P T : Path → Prop) : Prop :=
  ∀ st p, P p → (judge st p).2.take = true → T p

theorem forall_advancePaths (hfollow : FollowsTo s judge P) (htake : TakenAs judge P T)
    (paths : List Path) :
    ∀ (st : σ) (kept added taken : List Path), (∀ p ∈ paths, P p) → (∀ p ∈ kept, P p) →
      (∀ p ∈ added, P p) → (∀ p ∈ taken, T p) →
      (∀ p ∈ (s.advancePaths judge paths st kept added taken).2.1, P p)
        ∧ ∀ p ∈ (s.advancePaths judge paths st kept added taken).2.2, T p := by
  induction paths with
  | nil =>
    intro st kept added taken _ hkept hadded htaken
    refine ⟨fun p hp => ?_, htaken⟩
    rcases List.mem_append.mp hp with hp | hp
    · exact hkept p (List.mem_reverse.mp hp)
    · exact hadded p (List.mem_reverse.mp hp)
  | cons p rest ih =>
    intro st kept added taken hpaths hkept hadded htaken
    have hp := hpaths p (List.mem_cons_self ..)
    have hrest : ∀ p ∈ rest, P p := fun q hq => hpaths q (List.mem_cons_of_mem _ hq)
    cases hjudge : judge st p with
    | mk st' verdict =>
      obtain ⟨take, stop⟩ := verdict
      have htaken' : ∀ q ∈ (if take then p :: taken else taken), T q := by
        intro q hq
        split at hq
        · next h =>
          rcases List.mem_cons.mp hq with rfl | hq
          · exact htake st q hp (by rw [hjudge]; exact h)
          · exact htaken q hq
        · exact htaken q hq
      rw [advancePaths, hjudge]
      cases hlinks : (s.vertex p.vertex).links with
      | nil => exact ih _ _ _ _ hrest hkept hadded htaken'
      | cons first others =>
        cases stop with
        | true => exact ih _ _ _ _ hrest hkept hadded htaken'
        | false =>
          have hlink := hfollow st p hp (by rw [hjudge])
          rw [hlinks] at hlink
          refine ih _ _ _ _ hrest ?_ ?_ htaken'
          · intro q hq
            rcases List.mem_cons.mp hq with rfl | hq
            · exact hlink first (List.mem_cons_self ..)
            · exact hkept q hq
          · intro q hq
            rcases List.mem_append.mp hq with hq | hq
            · obtain ⟨link, hmem, rfl⟩ := List.mem_map.mp (List.mem_reverse.mp hq)
              exact hlink link (List.mem_cons_of_mem _ (List.mem_of_mem_take hmem))
            · exact hadded q hq

theorem forall_walk (hfollow : FollowsTo s judge P) (htake : TakenAs judge P T) (fuel : Nat) :
    ∀ (st : σ) (paths taken : List Path), (∀ p ∈ paths, P p) → (∀ p ∈ taken, T p) →
      ∀ p ∈ (s.walk judge fuel st paths taken).2, T p := by
  induction fuel with
  | zero =>
    intro st paths taken _ htaken p hp
    exact htaken p (List.mem_reverse.mp hp)
  | succ fuel ih =>
    intro st paths taken hpaths htaken
    cases paths with
    | nil =>
      intro p hp
      exact htaken p (List.mem_reverse.mp hp)
    | cons p rest =>
      obtain ⟨hpaths', htaken'⟩ := forall_advancePaths hfollow htake (p :: rest) st [] [] taken
        hpaths (by simp) (by simp) htaken
      exact ih _ _ _ hpaths' htaken'

/-- What holds of the path that has gone nowhere, and of a path followed over one more link, holds
of all results. -/
theorem forall_walkFrom {v : Nat} (hstart : P ⟨(s.head v).top, [], 0, true⟩)
    (hfollow : FollowsTo s judge P) (htake : TakenAs judge P T) (st : σ) :
    ∀ p ∈ (s.walkFrom v judge st).2, T p :=
  forall_walk hfollow htake _ _ _ _ (by simpa using hstart) (by simp)

end Walk

/-! ## Paths of a sound stack -/

/-- A path that has come to a live vertex, with everything on the way as the law says; `b` is where
it has come from. -/
def PathSound (L : Law) (live : Nat → Prop) (s : Stack) (b : Spot) (p : Path) : Prop :=
  live p.vertex ∧ L.Chain (s.vertex p.vertex).spot p.trees p.count b

theorem SoundBut.follow {but : Nat → Prop} {s : Stack} (hs : SoundBut L live but s) {b : Spot}
    {p : Path} (hp : PathSound L live s b p) {link : Link}
    (hlink : link ∈ (s.vertex p.vertex).links) : PathSound L live s b (p.follow link) := by
  obtain ⟨hlive, hchain⟩ := hp
  obtain ⟨hbelow, hstep, -⟩ := hs.links _ hlive link hlink
  rw [Path.follow]
  cases htree : link.tree with
  | none =>
    rw [htree] at hstep
    exact ⟨hbelow, .mark hstep hchain⟩
  | some t =>
    rw [htree] at hstep
    have hlonger := Law.Chain.tree hstep hchain
    by_cases hextra : t.isExtra = true
    · simp only [hextra, if_true] at hlonger ⊢
      exact ⟨hbelow, hlonger⟩
    · simp only [hextra] at hlonger ⊢
      exact ⟨hbelow, hlonger⟩

/-! ## Results -/

/-- What popping does: readings are added that stand at the ends of paths, and the results, in the
order of their readings, say which subtrees were on the way. -/
structure Popped (T : Path → Prop) (s s' : Stack) (slices : List Slice) : Prop where
  vertices : s'.vertices = s.vertices
  count : s.count ≤ s'.count
  old : ∀ v < s.count, s'.head v = s.head v
  new : ∀ v, s.count ≤ v → v < s'.count →
    (s'.head v).status = .active ∧ ∃ p, T p ∧ (s'.head v).top = p.vertex
  results : ∀ sl ∈ slices, s.count ≤ sl.version ∧ sl.version < s'.count
    ∧ ∃ p, T p ∧ sl.trees = p.trees ∧ (s'.head sl.version).top = p.vertex
  sorted : slices.Pairwise fun a b => a.version ≤ b.version
  covered : ∀ v, s.count ≤ v → v < s'.count → ∃ sl ∈ slices, sl.version = v
  distinct : ∀ v w, s.count ≤ v → v < s'.count → s.count ≤ w → w < s'.count →
    (s'.head v).top = (s'.head w).top → v = w

theorem insertSlice_go {s : Stack} {vertex : Nat} {trees : List Tree} {slices slices' : List Slice}
    (h : insertSlice.go s vertex trees slices = some slices') :
    ∃ before sl after, slices = before ++ sl :: after ∧ (s.head sl.version).top = vertex
      ∧ slices' = before ++ ⟨trees, sl.version⟩ :: sl :: after := by
  induction slices generalizing slices' with
  | nil => simp [insertSlice.go] at h
  | cons sl rest ih =>
    rw [insertSlice.go] at h
    split at h
    · next htop =>
      simp only [Option.some.injEq] at h
      exact ⟨[], sl, rest, rfl, htop, h.symm⟩
    · obtain ⟨rest', hrest', rfl⟩ := Option.map_eq_some_iff.mp h
      obtain ⟨before, sl', after, rfl, htop, rfl⟩ := ih hrest'
      exact ⟨sl :: before, sl', after, rfl, htop, rfl⟩

theorem insertSlice_eq_some {s : Stack} {vertex : Nat} {trees : List Tree}
    {slices slices' : List Slice} (h : s.insertSlice vertex trees slices = some slices') :
    ∃ before sl after, slices = before ++ sl :: after ∧ (s.head sl.version).top = vertex
      ∧ slices' = before ++ sl :: ⟨trees, sl.version⟩ :: after := by
  rw [insertSlice] at h
  obtain ⟨rev, hrev, rfl⟩ := Option.map_eq_some_iff.mp h
  obtain ⟨before, sl, after, heq, htop, rfl⟩ := insertSlice_go hrev
  refine ⟨after.reverse, sl, before.reverse, ?_, htop, ?_⟩
  · rw [← List.reverse_reverse slices, heq]
    simp
  · simp

/-- A slice starts a new reading only if no reading of the others stands where it ends. -/
theorem insertSlice_eq_none {s : Stack} {vertex : Nat} {trees : List Tree} {slices : List Slice}
    (h : s.insertSlice vertex trees slices = none) :
    ∀ sl ∈ slices, (s.head sl.version).top ≠ vertex := by
  have hgo : ∀ {slices : List Slice}, insertSlice.go s vertex trees slices = none →
      ∀ sl ∈ slices, (s.head sl.version).top ≠ vertex := by
    intro slices
    induction slices with
    | nil => simp
    | cons sl rest ih =>
      intro h x hx
      rw [insertSlice.go] at h
      split at h
      · simp at h
      · next hne =>
        rcases List.mem_cons.mp hx with rfl | hx
        · exact hne
        · exact ih (by simpa using h) x hx
  rw [insertSlice, Option.map_eq_none_iff] at h
  exact fun sl hsl => hgo h sl (List.mem_reverse.mpr hsl)

theorem popped_collect {T : Path → Prop} {s : Stack} (nodesAtError : Nat) (paths : List Path) :
    ∀ (s₁ : Stack) (slices : List Slice), (∀ p ∈ paths, T p) → Popped T s s₁ slices →
      Popped T s (collect nodesAtError paths s₁ slices).1
        (collect nodesAtError paths s₁ slices).2 := by
  induction paths with
  | nil => exact fun s₁ slices _ h => h
  | cons p rest ih =>
    intro s₁ slices hpaths h
    have hp := hpaths p (List.mem_cons_self ..)
    have hrest : ∀ p ∈ rest, T p := fun q hq => hpaths q (List.mem_cons_of_mem _ hq)
    rw [collect]
    split
    · next slices' hinsert =>
      -- the reading is there already
      obtain ⟨before, sl, after, rfl, htop, rfl⟩ := insertSlice_eq_some hinsert
      obtain ⟨hlow, hhigh, -⟩ := h.results sl (by simp)
      refine ih _ _ hrest { h with results := ?_, sorted := ?_, covered := ?_ }
      · intro x hx
        rcases List.mem_append.mp hx with hx | hx
        · exact h.results x (by simp [hx])
        · rcases List.mem_cons.mp hx with rfl | hx
          · exact h.results x (by simp)
          · rcases List.mem_cons.mp hx with rfl | hx
            · exact ⟨hlow, hhigh, p, hp, rfl, htop⟩
            · exact h.results x (by simp [hx])
      · have hsorted := h.sorted
        rw [List.pairwise_append, List.pairwise_cons] at hsorted ⊢
        obtain ⟨hbefore, ⟨hsl, hafter⟩, hcross⟩ := hsorted
        refine ⟨hbefore, ⟨?_, ?_⟩, ?_⟩
        · intro x hx
          rcases List.mem_cons.mp hx with rfl | hx
          · exact Nat.le_refl _
          · exact hsl x hx
        · exact List.pairwise_cons.mpr ⟨hsl, hafter⟩
        · intro x hx y hy
          rcases List.mem_cons.mp hy with rfl | hy
          · exact hcross x hx _ (List.mem_cons_self ..)
          · rcases List.mem_cons.mp hy with rfl | hy
            · exact hcross x hx sl (List.mem_cons_self ..)
            · exact hcross x hx y (List.mem_cons_of_mem _ hy)
      · intro v hv hlt
        obtain ⟨x, hx, rfl⟩ := h.covered v hv hlt
        refine ⟨x, ?_, rfl⟩
        rcases List.mem_append.mp hx with hx | hx
        · exact List.mem_append_left _ hx
        · rcases List.mem_cons.mp hx with rfl | hx
          · exact List.mem_append_right _ (List.mem_cons_self ..)
          · exact List.mem_append_right _
              (List.mem_cons_of_mem _ (List.mem_cons_of_mem _ hx))
    · -- a new reading, behind all others
      next hinsert =>
      have hcount := h.count
      -- no reading that has been made before stands where it does
      have hapart : ∀ v, s.count ≤ v → v < s₁.count → (s₁.head v).top ≠ p.vertex := by
        intro v hv hlt
        obtain ⟨sl, hsl, rfl⟩ := h.covered v hv hlt
        exact insertSlice_eq_none hinsert sl hsl
      refine ih _ _ hrest {
        vertices := h.vertices
        count := by
          rw [count_addHead]
          omega
        old := fun v hv => by
          rw [head_addHead, if_neg (by omega)]
          exact h.old v hv
        new := fun v hv hlt => ?_
        results := fun x hx => ?_
        sorted := ?_
        covered := fun v hv hlt => ?_
        distinct := fun v w hv hvlt hw hwlt htop => ?_ }
      · rw [head_addHead]
        split
        · exact ⟨rfl, p, hp, rfl⟩
        · next hne =>
          rw [count_addHead] at hlt
          exact h.new v hv (by omega)
      · rw [head_addHead, count_addHead]
        rcases List.mem_append.mp hx with hx | hx
        · obtain ⟨hlow, hhigh, hpath⟩ := h.results x hx
          rw [if_neg (by omega)]
          exact ⟨hlow, by omega, hpath⟩
        · rw [List.mem_singleton] at hx
          subst hx
          refine ⟨hcount, Nat.lt_succ_self _, p, hp, rfl, ?_⟩
          rw [if_pos rfl]
      · rw [List.pairwise_append]
        refine ⟨h.sorted, List.pairwise_singleton _ _, fun x hx y hy => ?_⟩
        rw [List.mem_singleton] at hy
        subst hy
        exact Nat.le_of_lt (h.results x hx).2.1
      · rw [count_addHead] at hlt
        by_cases hv' : v < s₁.count
        · obtain ⟨x, hx, rfl⟩ := h.covered v hv hv'
          exact ⟨x, List.mem_append_left _ hx, rfl⟩
        · exact ⟨_, List.mem_append_right _ (List.mem_singleton_self _), by
            show s₁.count = v
            omega⟩
      · rw [count_addHead] at hvlt hwlt
        rw [head_addHead, head_addHead] at htop
        split at htop
        · split at htop
          · omega
          · exact absurd htop.symm (hapart w hw (by omega))
        · split at htop
          · exact absurd htop (hapart v hv (by omega))
          · exact h.distinct v w hv (by omega) hw (by omega) htop

theorem popped_popPaths {σ : Type} {s : Stack} {judge : σ → Path → σ × Verdict} {P T : Path → Prop}
    {v : Nat} (hstart : P ⟨(s.head v).top, [], 0, true⟩) (hfollow : FollowsTo s judge P)
    (htake : TakenAs judge P T) (st : σ) :
    Popped T s (s.popPaths v judge st).1 (s.popPaths v judge st).2 := by
  refine popped_collect _ _ _ _ (forall_walkFrom hstart hfollow htake st) {
    vertices := rfl
    count := Nat.le_refl _
    old := fun _ _ => rfl
    new := fun v hv hlt => by omega
    results := by simp
    sorted := List.Pairwise.nil
    covered := fun v hv hlt => by omega
    distinct := fun v w hv hlt => by omega }

/-- Popping keeps a stack sound if the paths taken have come to live vertices. -/
theorem Popped.soundBut {T : Path → Prop} {but : Nat → Prop} {s s' : Stack} {slices : List Slice}
    (h : Popped T s s' slices) (hs : SoundBut L live but s) (hT : ∀ p, T p → live p.vertex) :
    SoundBut L live (fun v => but v ∧ v < s.count) s' := by
  refine hs.of_vertices h.vertices fun v hv => ?_
  by_cases hlow : v < s.count
  · rw [h.old v hlow]
    exact hs.heads v fun hbut => hv ⟨hbut, hlow⟩
  · by_cases hhigh : v < s'.count
    · obtain ⟨hstatus, p, hp, htop⟩ := h.new v (Nat.le_of_not_lt hlow) hhigh
      exact headSound_active hstatus (htop ▸ hT p hp)
    · rw [head_of_le (Nat.le_of_not_lt hhigh)]
      exact hs.origin

theorem Popped.sound {T : Path → Prop} {s s' : Stack} {slices : List Slice}
    (h : Popped T s s' slices) (hs : Sound L live s) (hT : ∀ p, T p → live p.vertex) :
    Sound L live s' :=
  (h.soundBut hs hT).of_vertices rfl fun v _ => (h.soundBut hs hT).heads v (by simp)

theorem Popped.kept {T : Path → Prop} {s s' : Stack} {slices : List Slice}
    (h : Popped T s s' slices) : Kept s.count s s' := by
  refine .of_vertices h.vertices h.count fun v hv => ?_
  rw [SameHead, h.old v hv]
  exact ⟨rfl, rfl⟩

/-- The subtrees of a result lie between where its reading stands now and where the path began. -/
theorem Popped.chain {T : Path → Prop} {s s' : Stack} {slices : List Slice} {b : Spot}
    (h : Popped T s s' slices) (hT : ∀ p, T p → PathSound L live s b p) {sl : Slice}
    (hsl : sl ∈ slices) :
    ∃ p, T p ∧ sl.trees = p.trees ∧ L.Chain (s'.spot sl.version) sl.trees p.count b := by
  obtain ⟨-, -, p, hp, htrees, htop⟩ := h.results sl hsl
  refine ⟨p, hp, htrees, ?_⟩
  have hspot : s'.spot sl.version = (s.vertex p.vertex).spot := by
    rw [spot, top, htop, vertex, h.vertices]
    rfl
  rw [hspot, htrees]
  exact (hT p hp).2

/-! ## The ways to pop -/

theorem PathSound.start {s : Stack} (hs : Sound L live s) {v : Nat}
    (hv : (s.head v).status ≠ .halted) :
    PathSound L live s (s.spot v) ⟨(s.head v).top, [], 0, true⟩ :=
  ⟨(hs.heads v id).top_live hv, .nil _⟩

/-- If some subtrees begin with one beside the grammar, then fewer than a number stand in it. -/
def BeginsWithin (n : Nat) (ts : List Tree) : Prop :=
  ∀ t, ts.head? = some t → t.isExtra = true → (ts.countP fun t => !t.isExtra) < n

/-- Popping a number of subtrees: a path is taken as soon as it has passed so many, so it does not
go on over what stands beside the grammar. -/
theorem Sound.popCount {s : Stack} (hs : Sound L live s) {v : Nat}
    (hv : (s.head v).status ≠ .halted) (n : Nat) :
    Popped (fun p => PathSound L live s (s.spot v) p ∧ p.count = n ∧ BeginsWithin n p.trees) s
      (s.popCount v n).1 (s.popCount v n).2 := by
  refine popped_popPaths (P := fun p => PathSound L live s (s.spot v) p ∧ p.count ≤ n
    ∧ (p.trees.countP fun t => !t.isExtra) ≤ p.count ∧ BeginsWithin n p.trees)
    ⟨.start hs hv, Nat.zero_le n, Nat.le_refl 0, by simp [BeginsWithin]⟩ ?_ ?_ ()
  · rintro _ p ⟨hp, hle, hcounted, hbegins⟩ hstop link hlink
    have hlt : p.count < n := Nat.lt_of_le_of_ne hle (by simpa using hstop)
    refine ⟨hs.follow hp hlink, ?_⟩
    rw [Path.follow]
    cases htree : link.tree with
    | none => exact ⟨hlt, Nat.le_succ_of_le hcounted, hbegins⟩
    | some t =>
      by_cases hextra : t.isExtra = true
      · have hsame : (t :: p.trees).countP (fun t => !t.isExtra)
            = p.trees.countP fun t => !t.isExtra := by simp [hextra]
        simp only [hextra, if_true]
        exact ⟨hle, hsame ▸ hcounted, fun _ _ _ => by omega⟩
      · have hmore : (t :: p.trees).countP (fun t => !t.isExtra)
            = (p.trees.countP fun t => !t.isExtra) + 1 := by simp [hextra]
        simp only [hextra]
        refine ⟨hlt, hmore ▸ Nat.succ_le_succ hcounted, fun u hu htrue => ?_⟩
        obtain rfl : t = u := Option.some.inj hu
        exact absurd htrue hextra
  · rintro _ p ⟨hp, -, -, hbegins⟩ htake
    exact ⟨hp, by simpa using htake, hbegins⟩

/-- Popping the whole stack. -/
theorem popped_popAll {s : Stack} {v : Nat} {P : Path → Prop}
    (hstart : P ⟨(s.head v).top, [], 0, true⟩)
    (hfollow : ∀ p, P p → ∀ link ∈ (s.vertex p.vertex).links, P (p.follow link)) :
    Popped (fun p => P p ∧ (s.vertex p.vertex).links = []) s (s.popAll v).1 (s.popAll v).2 := by
  refine popped_popPaths (P := P) hstart ?_ ?_ ()
  · exact fun _ p hp _ link hlink => hfollow p hp link hlink
  · intro _ p hp htake
    exact ⟨hp, by simpa using htake⟩

/-- A reading has been put where a path of it ends; the other readings that were there stay, and the
new ones go on. -/
structure Stepped (v : Nat) (s s' : Stack) : Prop where
  vertices : s'.vertices = s.vertices
  count : s.count ≤ s'.count
  others : ∀ w < s.count, w ≠ v → SameHead s s' w
  active : (s'.head v).status = .active
  new : ∀ w, s.count ≤ w → (s'.head w).status = .active

/-- The first result of a pop is the first new reading, and the only one if it is the only result. -/
theorem Popped.first_version {T : Path → Prop} {s s' : Stack} {first : Slice} {others : List Slice}
    (h : Popped T s s' (first :: others)) :
    first.version = s.count ∧ (others.isEmpty = true → s'.count = s.count + 1) := by
  obtain ⟨hlow, hhigh, -⟩ := h.results first (List.mem_cons_self ..)
  have hfirst : ∀ w, s.count ≤ w → w < s'.count → first.version ≤ w := by
    intro w hw hlt
    obtain ⟨sl, hsl, rfl⟩ := h.covered w hw hlt
    rcases List.mem_cons.mp hsl with rfl | hsl
    · exact Nat.le_refl _
    · exact (List.pairwise_cons.mp h.sorted).1 sl hsl
  have hversion : first.version = s.count :=
    Nat.le_antisymm (hfirst s.count (Nat.le_refl _) (Nat.lt_of_le_of_lt hlow hhigh)) hlow
  refine ⟨hversion, fun hempty => ?_⟩
  obtain rfl : others = [] := List.isEmpty_iff.mp hempty
  by_contra hmore
  obtain ⟨sl, hsl, hlast⟩ := h.covered (s.count + 1) (by omega) (by omega)
  rw [List.mem_singleton.mp hsl] at hlast
  omega

/-- Putting the reading of the first result in the place of the one that was popped. -/
theorem Popped.stepped {T : Path → Prop} {s s' : Stack} {first : Slice} {rest : List Slice}
    (h : Popped T s s' (first :: rest)) {v : Nat} (hv : v < s.count) :
    Stepped v s (s'.replace first.version v)
      ∧ (s'.replace first.version v).spot v = s'.spot first.version := by
  obtain ⟨hlow, hhigh, -⟩ := h.results first (List.mem_cons_self ..)
  have hcount := h.count
  have hhead := head_replace (s := s') (by omega : v < first.version) (by omega)
  have hactive : ∀ w, s.count ≤ w → (s'.head w).status = .active := by
    intro w hw
    by_cases hlt : w < s'.count
    · exact (h.new w hw hlt).1
    · rw [head_of_le (Nat.le_of_not_lt hlt)]
      rfl
  refine ⟨{
    vertices := (vertices_replace ..).trans h.vertices
    count := by
      rw [count_replace (by omega) hhigh]
      omega
    others := fun w hw hne => by
      have hw' := hhead w
      rw [if_neg hne, if_pos (by omega), h.old w hw] at hw'
      exact hw'
    active := by
      have hv' := hhead v
      rw [if_pos rfl] at hv'
      rw [hv'.2]
      exact hactive _ hlow
    new := fun w hw => by
      rw [(hhead w).2]
      apply hactive
      split
      · omega
      · split <;> omega }, ?_⟩
  have hv' := (hhead v).1
  rw [if_pos rfl] at hv'
  rw [spot, spot, top, top, hv', vertex, vertex, vertices_replace]

theorem Stepped.refl {v : Nat} {s s' : Stack} (hvertices : s'.vertices = s.vertices)
    (hcount : s.count ≤ s'.count) (hold : ∀ w < s.count, s'.head w = s.head w)
    (hnew : ∀ w, s.count ≤ w → (s'.head w).status = .active)
    (hv : (s'.head v).status = .active) : Stepped v s s' where
  vertices := hvertices
  count := hcount
  others w hw _ := by
    rw [SameHead, hold w hw]
    exact ⟨rfl, rfl⟩
  active := hv
  new := hnew

/-- Popping in place: either nothing has been popped and the reading is where it was, or it stands
below the subtrees of a path that was taken. -/
theorem Popped.takeFirst {Q : List Tree → Prop} {s : Stack} {popped : Stack × List Slice} {v : Nat}
    (hs : Sound L live s) (hv : v < s.count) (hactive : (s.head v).status = .active)
    (h : Popped (fun p => PathSound L live s (s.spot v) p ∧ Q p.trees) s popped.1 popped.2) :
    Sound L live (takeFirst v popped).1 ∧ Stepped v s (takeFirst v popped).1
      ∧ ((takeFirst v popped).2 = [] ∧ (takeFirst v popped).1.spot v = s.spot v
          ∧ (takeFirst v popped).1.count = s.count
        ∨ ∃ n, Q (takeFirst v popped).2
          ∧ L.Chain ((takeFirst v popped).1.spot v) (takeFirst v popped).2 n (s.spot v)) := by
  obtain ⟨s', slices⟩ := popped
  have hsound := h.sound hs fun p hp => hp.1.1
  cases slices with
  | nil =>
    refine ⟨hsound, .refl h.vertices h.count h.old (fun w hw => ?_) ?_, .inl ⟨rfl, ?_, ?_⟩⟩
    · by_cases hlt : w < s'.count
      · exact (h.new w hw hlt).1
      · exact active_of_le (Nat.le_of_not_lt hlt)
    · show (s'.head v).status = .active
      rw [h.old v hv]
      exact hactive
    · exact h.kept.spot (h.kept.heads v hv)
        (hs.bound _ ((hs.heads v id).top_live (by simp [hactive])))
    · show s'.count = s.count
      refine Nat.le_antisymm (Nat.le_of_not_lt fun hlt => ?_) h.count
      obtain ⟨sl, hsl, -⟩ := h.covered s.count (Nat.le_refl _) hlt
      simp at hsl
  | cons first rest =>
    obtain ⟨hstepped, hspot⟩ := h.stepped hv
    obtain ⟨p, ⟨-, hp⟩, htrees, hchain⟩ := h.chain (fun p hp => hp.1) (List.mem_cons_self ..)
    refine ⟨hsound.replace _ _, hstepped, .inr ⟨p.count, ?_, ?_⟩⟩
    · show Q first.trees
      rw [htrees]
      exact hp
    · show L.Chain ((s'.replace first.version v).spot v) first.trees p.count (s.spot v)
      rw [hspot]
      exact hchain

/-- Popping the error on top of a stack. -/
theorem Sound.popped_popError {s : Stack} (hs : Sound L live s) {v : Nat}
    (hv : (s.head v).status ≠ .halted) :
    Popped (fun p => PathSound L live s (s.spot v) p ∧ ∃ e, p.trees = [e] ∧ e.isError = true) s
      (s.popPaths v errorVerdict false).1 (s.popPaths v errorVerdict false).2 := by
  refine popped_popPaths
    (P := fun p => PathSound L live s (s.spot v) p ∧ (p.trees = [] ∨ ∃ e, p.trees = [e]))
    ⟨.start hs hv, .inl rfl⟩ ?_ ?_ false
  · rintro found p ⟨hp, htrees⟩ hstop link hlink
    refine ⟨hs.follow hp hlink, ?_⟩
    have hnil : p.trees = [] := by
      rcases htrees with hnil | ⟨e, he⟩
      · exact hnil
      · simp only [errorVerdict, he] at hstop
        split at hstop <;> simp at hstop
    rw [Path.follow]
    split
    · exact .inl hnil
    · next t _ =>
      refine .inr ⟨t, ?_⟩
      split <;> simp [hnil]
  · rintro found p ⟨hp, htrees⟩ htake
    refine ⟨hp, ?_⟩
    rcases htrees with hnil | ⟨e, he⟩
    · simp [errorVerdict, hnil] at htake
    · refine ⟨e, he, ?_⟩
      simp only [errorVerdict, he] at htake
      split at htake
      · next h => exact (Bool.and_eq_true_iff.mp h).2
      · simp at htake

/-- While an error is looked for, there is a result once one has been found. -/
theorem length_advancePaths_errorVerdict (s : Stack) (paths : List Path) :
    ∀ (found : Bool) (kept added taken : List Path), taken.length = found.toNat →
      (s.advancePaths errorVerdict paths found kept added taken).2.2.length
        = (s.advancePaths errorVerdict paths found kept added taken).1.toNat := by
  induction paths with
  | nil => exact fun _ _ _ _ h => h
  | cons p rest ih =>
    intro found kept added taken h
    have htaken : (if (errorVerdict found p).2.take then p :: taken else taken).length
        = (errorVerdict found p).1.toNat := by
      rw [errorVerdict]
      split
      · exact h
      · split
        · next hfound =>
          simp only [Bool.and_eq_true, Bool.not_eq_true'] at hfound
          rw [hfound.1] at h
          simpa using h
        · exact h
    rw [advancePaths]
    simp only
    split
    · exact ih _ _ _ _ htaken
    · exact ih _ _ _ _ htaken
    · exact ih _ _ _ _ htaken

theorem length_walk_errorVerdict (s : Stack) (fuel : Nat) :
    ∀ (found : Bool) (paths taken : List Path), taken.length = found.toNat →
      (s.walk errorVerdict fuel found paths taken).2.length ≤ 1 := by
  induction fuel with
  | zero =>
    intro found paths taken h
    rw [walk, List.length_reverse, h]
    exact Bool.toNat_le found
  | succ fuel ih =>
    intro found paths taken h
    cases paths with
    | nil =>
      show taken.reverse.length ≤ 1
      rw [List.length_reverse, h]
      exact Bool.toNat_le found
    | cons p rest => exact ih _ _ _ (length_advancePaths_errorVerdict s (p :: rest) _ _ _ _ h)

/-- Popping an error leaves as many readings as there were. -/
theorem count_popError (s : Stack) {v : Nat} (hv : v < s.count) :
    (s.popError v).1.count = s.count := by
  rw [Stack.popError]
  split
  · have hlength := length_walk_errorVerdict s (s.vertices.size + 1) false
      [⟨(s.head v).top, [], 0, true⟩] [] rfl
    rw [popPaths, walkFrom]
    generalize s.walk errorVerdict (s.vertices.size + 1) false
      [⟨(s.head v).top, [], 0, true⟩] [] = walked at hlength
    obtain ⟨found, paths⟩ := walked
    match paths with
    | [] => rfl
    | [p] =>
      show ((s.addHead _).replace s.count v).count = s.count
      rw [count_replace (by omega) (by simp), count_addHead]
      rfl
    | _ :: _ :: _ => simp at hlength
  · rfl

/-- What is left when an error has been looked for on top of a stack: either nothing has been popped,
or one node in error, perhaps with marks above and below it. -/
theorem Sound.popError {s : Stack} (hs : Sound L live s) {v : Nat} (hv : v < s.count)
    (hactive : (s.head v).status = .active) :
    Sound L live (s.popError v).1 ∧ Stepped v s (s.popError v).1
      ∧ ((s.popError v).2 = [] ∧ (s.popError v).1.spot v = s.spot v
        ∨ ∃ e n, (s.popError v).2 = [e] ∧ e.isError = true
          ∧ L.Chain ((s.popError v).1.spot v) [e] n (s.spot v)) := by
  rw [Stack.popError]
  split
  · obtain ⟨hsound, hstepped, hsame | ⟨n, ⟨e, he, herror⟩, hchain⟩⟩ :=
      Popped.takeFirst (Q := fun ts => ∃ e, ts = [e] ∧ e.isError = true) hs hv hactive
        (hs.popped_popError (by simp [hactive]))
    · exact ⟨hsound, hstepped, .inl ⟨hsame.1, hsame.2.1⟩⟩
    · exact ⟨hsound, hstepped, .inr ⟨e, n, he, herror, he ▸ hchain⟩⟩
  · exact ⟨hs, .refl rfl (Nat.le_refl _) (fun _ _ => rfl) (fun _ hw => active_of_le hw) hactive,
      .inl ⟨rfl, rfl⟩⟩

/-- Subtrees that begin with one that was taken over whole; the others are extras above it. -/
def IsPending (L : Law) (ts : List Tree) : Prop :=
  ∃ parent others, ts = parent :: others ∧ L.divides parent ∧ ∀ t ∈ others, t.isExtra = true

/-- Popping one subtree that was taken over whole. -/
theorem Sound.popped_pending {s : Stack} (hs : Sound L live s) {v : Nat}
    (hv : (s.head v).status ≠ .halted) :
    Popped (fun p => PathSound L live s (s.spot v) p ∧ IsPending L p.trees) s
      (s.popPaths v (fun _ p => ((), ⟨1 ≤ p.count && p.pending, 1 ≤ p.count⟩)) ()).1
      (s.popPaths v (fun _ p => ((), ⟨1 ≤ p.count && p.pending, 1 ≤ p.count⟩)) ()).2 := by
  refine popped_popPaths (P := fun p => PathSound L live s (s.spot v) p
    ∧ (p.count = 0 → ∀ t ∈ p.trees, t.isExtra = true)
    ∧ (p.count ≠ 0 → p.pending = true → IsPending L p.trees)) ⟨.start hs hv, by simp, by simp⟩
    ?_ ?_ ()
  · rintro _ p ⟨hp, hextras, -⟩ hstop link hlink
    have hzero : p.count = 0 := by
      simp only [decide_eq_false_iff_not] at hstop
      omega
    obtain ⟨-, -, hdivides⟩ := hs.links _ hp.1 link hlink
    refine ⟨hs.follow hp hlink, ?_⟩
    rw [Path.follow]
    cases htree : link.tree with
    | none => simp
    | some t =>
      by_cases hextra : t.isExtra = true
      · simp only [hextra, if_true]
        refine ⟨fun _ x hx => ?_, fun hne => absurd hzero hne⟩
        rcases List.mem_cons.mp hx with rfl | hx
        · exact hextra
        · exact hextras hzero x hx
      · simp only [hextra]
        refine ⟨fun h => absurd h (Nat.succ_ne_zero _), fun _ hpending => ?_⟩
        have hlinked := (Bool.and_eq_true_iff.mp hpending).2
        exact ⟨t, p.trees, rfl, hdivides t hlinked htree, hextras hzero⟩
  · rintro _ p ⟨hp, -, hpending⟩ htake
    simp only [Bool.and_eq_true, decide_eq_true_eq] at htake
    exact ⟨hp, hpending (by omega) htake.2⟩

/-- Popping a subtree that was taken over whole changes nothing if there is none, and else leaves the
reading below that subtree and the extras behind it. -/
theorem Sound.popPending {s : Stack} (hs : Sound L live s) {v : Nat} (hv : v < s.count)
    (hactive : (s.head v).status = .active) :
    Sound L live (s.popPending v).1 ∧ Stepped v s (s.popPending v).1
      ∧ ((s.popPending v).2 = [] ∧ (s.popPending v).1.spot v = s.spot v
          ∧ (s.popPending v).1.count = s.count
        ∨ ∃ n, IsPending L (s.popPending v).2
          ∧ L.Chain ((s.popPending v).1.spot v) (s.popPending v).2 n (s.spot v)) :=
  Popped.takeFirst hs hv hactive (hs.popped_pending (by simp [hactive]))

end Stack

end SyntaxKit
