import Mathlib.Data.List.TakeDrop
import Mathlib.Data.List.TakeWhile
import SyntaxKit.Proofs.Parse.Closed

/-!
# Reductions keep to the law

A reduction pops the children of a node and pushes the node where they were.  The readings that come
out of it are new ones at the end of the list, each as far on in the text as the reading they come
from, and the readings that were there before stay where they are (`Parse.Reduced`).
-/

namespace SyntaxKit

namespace Parse

variable {L : Law} {env : Setting} {p : Parse}

/-! ## Children and extras -/

/-- Splitting off the extras at the end takes a list apart. -/
theorem splitTrailingExtras_spec (trees : List Tree) :
    (splitTrailingExtras trees).1 ++ (splitTrailingExtras trees).2 = trees
      ∧ (∀ e ∈ (splitTrailingExtras trees).2, e.isExtra = true)
      ∧ ∀ c, (splitTrailingExtras trees).1.getLast? = some c → c.isExtra = false := by
  rw [splitTrailingExtras, List.span_eq_takeWhile_dropWhile]
  refine ⟨?_, ?_, ?_⟩
  · show (trees.reverse.dropWhile Tree.isExtra).reverse
      ++ (trees.reverse.takeWhile Tree.isExtra).reverse = trees
    rw [← List.reverse_append, List.takeWhile_append_dropWhile, List.reverse_reverse]
  · intro e he
    exact List.mem_takeWhile_imp (List.mem_reverse.mp he)
  · intro c hc
    rw [List.getLast?_reverse] at hc
    have hne : trees.reverse.dropWhile Tree.isExtra ≠ [] := by
      intro hnil
      simp [hnil] at hc
    have hhead := List.head_dropWhile_not Tree.isExtra hne
    rw [List.head?_eq_some_head hne, Option.some.injEq] at hc
    simpa [hc] using hhead

/-- What is left of the subtrees that a reduction takes is trimmed. -/
theorem trimmed_splitTrailingExtras {count : Nat} {trees : List Tree}
    (h : Stack.BeginsWithin count trees) :
    Law.Trimmed count (splitTrailingExtras trees).1 := by
  obtain ⟨hsplit, hextras, hlast⟩ := splitTrailingExtras_spec trees
  refine ⟨hlast, fun t ht hextra => ?_⟩
  have hnone : (splitTrailingExtras trees).2.countP (fun t => !t.isExtra) = 0 :=
    List.countP_eq_zero.mpr fun e he => by simp [hextras e he]
  have hcount := h t (by rw [← hsplit, List.head?_append, ht]; rfl) hextra
  rw [← hsplit, List.countP_append, hnone] at hcount
  exact hcount

/-- The node that is chosen is one over the children of some slice, and the extras are those behind
them. -/
theorem chooseChildren_spec (env : Setting) (symbol : Symbol) (production : Nat)
    (slices : List Stack.Slice) (trees : List Tree) :
    ∃ ts, (ts = trees ∨ ∃ sl ∈ slices, ts = sl.trees)
      ∧ chooseChildren env symbol production
          (Tree.ofChildren env.lang env.generation symbol production (splitTrailingExtras trees).1)
          (splitTrailingExtras trees).2 slices
        = (Tree.ofChildren env.lang env.generation symbol production (splitTrailingExtras ts).1,
          (splitTrailingExtras ts).2) := by
  induction slices generalizing trees with
  | nil => exact ⟨trees, .inl rfl, rfl⟩
  | cons slice rest ih =>
    rw [chooseChildren]
    obtain ⟨ts, hts, heq⟩ := ih slice.trees
    obtain ⟨ts', hts', heq'⟩ := ih trees
    cases hsplit : splitTrailingExtras slice.trees with
    | mk children others =>
      rw [hsplit] at heq
      simp only
      split
      · refine ⟨ts, .inr ?_, heq⟩
        rcases hts with rfl | ⟨sl, hsl, rfl⟩
        · exact ⟨slice, List.mem_cons_self .., rfl⟩
        · exact ⟨sl, List.mem_cons_of_mem _ hsl, rfl⟩
      · refine ⟨ts', ?_, heq'⟩
        rcases hts' with rfl | ⟨sl, hsl, rfl⟩
        · exact .inl rfl
        · exact .inr ⟨sl, List.mem_cons_of_mem _ hsl, rfl⟩

end Parse

/-! ## Pushing several subtrees -/

namespace Stack

variable {L : Law}

/-- One reading has gone on, the others are where they were, and none has changed its status. -/
structure Touched (v : Nat) (s s' : Stack) : Prop extends Extends s s' where
  count : s'.count = s.count
  others : ∀ w, w ≠ v → SameHead s s' w
  status : (s'.head v).status = (s.head v).status

theorem Touched.refl (v : Nat) (s : Stack) : Touched v s s :=
  ⟨.refl s, rfl, fun _ _ => ⟨rfl, rfl⟩, rfl⟩

theorem Touched.trans {v : Nat} {s s' s'' : Stack} (h : Touched v s s') (h' : Touched v s' s'') :
    Touched v s s'' :=
  ⟨h.toExtends.trans h'.toExtends, h'.count.trans h.count,
    fun w hw => (h.others w hw).trans (h'.others w hw), h'.status.trans h.status⟩

theorem Touched.kept {n v : Nat} {s s' : Stack} (h : Touched v s s') (hn : n ≤ v)
    (hcount : n ≤ s.count) : Kept n s s' :=
  ⟨h.toExtends, h.count ▸ hcount, fun w hw => h.others w (by omega)⟩

theorem Touched.moved {v : Nat} {s s' s'' : Stack} (h : Touched v s s') (h' : Moved L v s' s'') :
    Moved L v s s'' where
  toExtends := h.toExtends.trans h'.toExtends
  count := h.count ▸ h'.count
  others w hw hne := (h.others w hne).trans (h'.others w (h.count ▸ hw) hne)
  placed w hw := h'.placed w (h.count ▸ hw)

/-- A reading that has gone on to where it may stand. -/
theorem Touched.moved_of_tops {v : Nat} {s s' : Stack} (h : Touched v s s')
    (htops : L.tops (s'.spot v)) : Moved L v s s' where
  toExtends := h.toExtends
  count := Nat.le_of_eq h.count.symm
  others w _ hne := h.others w hne
  placed w hw hlt _ := by
    obtain rfl : w = v := hw.resolve_left (Nat.not_le.mpr (h.count ▸ hlt))
    exact htops

theorem status_push (s : Stack) (lang : Language) (v w : Nat) (tree : Option Tree) (pending : Bool)
    (state : ParseState) :
    ((s.push lang v tree pending state).head w).status = (s.head w).status := by
  by_cases hw : w = v
  · subst hw
    by_cases hlt : w < s.count
    · exact (head_push s lang hlt tree pending state).2
    · rw [head_of_le (Nat.le_of_not_lt hlt), head_of_le (by simpa using Nat.le_of_not_lt hlt)]
  · exact (sameHead_push s lang hw tree pending state).2

theorem touched_push (s : Stack) (lang : Language) (v : Nat) (tree : Option Tree) (pending : Bool)
    (state : ParseState) : Touched v s (s.push lang v tree pending state) :=
  ⟨extends_push .., count_push .., fun _ hw => sameHead_push s lang hw .., status_push ..⟩

/-- Pushing subtrees that the law allows one after the other. -/
theorem Sound.pushAll (lang : Language) {v : Nat} {state : ParseState} (ts : List Tree) :
    ∀ {s : Stack} {live : Nat → Prop}, Sound L live s → v < s.count →
      (s.head v).status = .active → L.Row state (s.spot v) ts →
      (∃ live', Sound L live' (ts.foldl (fun s t => s.push lang v (some t) false state) s))
        ∧ Touched v s (ts.foldl (fun s t => s.push lang v (some t) false state) s)
        ∧ (ts.foldl (fun s t => s.push lang v (some t) false state) s).spot v
          = (s.spot v).along state ts := by
  induction ts with
  | nil => exact fun hs _ _ _ => ⟨⟨_, hs⟩, .refl v _, rfl⟩
  | cons t ts ih =>
    intro s live hs hv hactive hrow
    obtain ⟨hstep, hrest⟩ := hrow
    have hs' := hs.push lang hactive (some t) false state hstep
      (by simp)
    have hspot := spot_push s lang hv (some t) false state
    obtain ⟨hsound, htouched, hend⟩ := ih hs' (by simpa using hv)
      ((status_push ..).trans hactive) (by rw [hspot]; exact hrest)
    refine ⟨hsound, (touched_push ..).trans htouched, ?_⟩
    rw [List.foldl_cons, hend, hspot, Spot.along_cons]

end Stack

namespace Parse

variable {L : Law} {env : Setting} {p : Parse}

/-! ## Joining the reading that came out -/

theorem mergeIntoEarlier_spec (env : Setting) (except v : Nat) (left : Nat) :
    ∀ (j : Nat) {p : Parse}, p.Sound L →
      (mergeIntoEarlier env except v left j p).1.Sound L
        ∧ (((mergeIntoEarlier env except v left j p).2 = false
            ∧ (mergeIntoEarlier env except v left j p).1 = p)
          ∨ ((mergeIntoEarlier env except v left j p).2 = true
            ∧ Stack.Merged v p.stack (mergeIntoEarlier env except v left j p).1.stack)) := by
  induction left with
  | zero => exact fun _ _ hp => ⟨hp, .inl ⟨rfl, rfl⟩⟩
  | succ left ih =>
    intro j p hp
    rw [mergeIntoEarlier]
    split
    · exact ih (j + 1) hp
    · split
      · next stack hmerge =>
        obtain ⟨live, hs⟩ := hp.stack
        obtain ⟨hs', hmerged⟩ := hs.merge hmerge
        exact ⟨hp.withStack ⟨live, hs'⟩, .inr ⟨rfl, hmerged⟩⟩
      · exact ih (j + 1) hp

/-! ## The results of a reduction -/

/-- What is left to do in a reduction: the first `n` readings are as before, the others are new, and
each stands either where a reading is to stand in the end or at the place that some result waits for.
`removed` new readings have been struck off. -/
structure Pending (L : Law) (ends : Spot → Prop) (n : Nat) (b : Spot) (count removed : Nat)
    (s : Stack) (p : Parse) (slices : List Stack.Slice) : Prop where
  sound : p.Sound L
  kept : Stack.Kept n s p.stack
  active : ∀ w, n ≤ w → (p.stack.head w).status = .active
  results : ∀ sl ∈ slices, n + removed ≤ sl.version ∧ sl.version - removed < p.stack.count
    ∧ L.Chain (p.stack.spot (sl.version - removed)) sl.trees count b
  begins : ∀ sl ∈ slices, Stack.BeginsWithin count sl.trees
  sorted : slices.Pairwise fun x y => x.version ≤ y.version
  done : ∀ w, n ≤ w → w < p.stack.count →
    ends (p.stack.spot w) ∨ ∃ sl ∈ slices, sl.version - removed = w

/-- The results that come out at the same place stand together, and the others have later
readings. -/
theorem span_version {slice : Stack.Slice} {rest same rest' : List Stack.Slice}
    (hspan : rest.span (·.version == slice.version) = (same, rest'))
    (hsorted : (slice :: rest).Pairwise fun x y => x.version ≤ y.version) :
    rest = same ++ rest' ∧ (∀ x ∈ same, x.version = slice.version)
      ∧ ∀ x ∈ rest', slice.version < x.version := by
  rw [List.span_eq_takeWhile_dropWhile, Prod.mk.injEq] at hspan
  obtain ⟨rfl, rfl⟩ := hspan
  obtain ⟨hfirst, hrest⟩ := List.pairwise_cons.mp hsorted
  refine ⟨List.takeWhile_append_dropWhile.symm, fun x hx => ?_, fun x hx => ?_⟩
  · simpa using List.mem_takeWhile_imp hx
  · -- the first of the others differs, and the rest are not before it
    cases hdrop : rest.dropWhile (·.version == slice.version) with
    | nil => simp [hdrop] at hx
    | cons y ys =>
      have hy : ¬(y.version == slice.version) = true := by
        have hne : rest.dropWhile (·.version == slice.version) ≠ [] := by simp [hdrop]
        have hhead := List.head_dropWhile_not (fun x : Stack.Slice => x.version == slice.version) hne
        simpa [hdrop] using hhead
      have hsub : List.Sublist (y :: ys) rest := hdrop ▸ List.dropWhile_sublist _
      have hle : slice.version ≤ y.version := hfirst y (hsub.subset (List.mem_cons_self ..))
      have hlt : slice.version < y.version := by
        refine Nat.lt_of_le_of_ne hle fun heq => hy ?_
        simp [heq]
      rw [hdrop] at hx
      rcases List.mem_cons.mp hx with rfl | hx
      · exact hlt
      · have := (List.pairwise_cons.mp (hrest.sublist hsub)).1 x hx
        omega

/-- The rest of the results after those at one place have been dealt with, when the reading there has
not been struck off. -/
theorem Pending.keep {ends : Spot → Prop} {n count removed : Nat} {b : Spot} {s : Stack}
    {p p' : Parse} {slice : Stack.Slice} {rest same rest' : List Stack.Slice}
    (h : Pending L ends n b count removed s p (slice :: rest))
    (hspan : rest.span (·.version == slice.version) = (same, rest')) (hp' : p'.Sound L)
    (htouched : Stack.Touched (slice.version - removed) p.stack p'.stack)
    (hend : ends (p'.stack.spot (slice.version - removed))) :
    Pending L ends n b count removed s p' rest' := by
  obtain ⟨hrest, hsame, hlater⟩ := span_version hspan h.sorted
  have hmem : ∀ x ∈ rest', x ∈ slice :: rest := by
    intro x hx
    rw [hrest]
    exact List.mem_cons_of_mem _ (List.mem_append_right _ hx)
  obtain ⟨hlow, hin, -⟩ := h.results slice (List.mem_cons_self ..)
  obtain ⟨live, hs⟩ := h.sound.stack
  have hspot : ∀ w, w ≠ slice.version - removed → n ≤ w → p'.stack.spot w = p.stack.spot w := by
    intro w hw hn
    refine htouched.toExtends.spot (htouched.others w hw) (hs.bound _ ?_)
    exact (hs.heads w id).top_live (by simp [h.active w hn])
  refine {
    sound := hp'
    kept := h.kept.trans (htouched.kept (by omega) h.kept.count)
    active := fun w hw => ?_
    results := fun x hx => ?_
    begins := fun x hx => h.begins x (hmem x hx)
    sorted := ?_
    done := fun w hn hw => ?_ }
  · by_cases hv : w = slice.version - removed
    · rw [hv, htouched.status]
      exact h.active _ (by omega)
    · rw [(htouched.others w hv).2]
      exact h.active w hw
  · obtain ⟨hlow', hin', hchain⟩ := h.results x (hmem x hx)
    have hlt := hlater x hx
    rw [hspot _ (by omega) (by omega), htouched.count]
    exact ⟨hlow', hin', hchain⟩
  · have hsorted := (List.pairwise_cons.mp h.sorted).2
    rw [hrest] at hsorted
    exact (List.pairwise_append.mp hsorted).2.1
  · by_cases hv : w = slice.version - removed
    · exact .inl (hv ▸ hend)
    · rw [htouched.count] at hw
      have hbefore := h.done w hn hw
      rw [← hspot w hv hn] at hbefore
      rcases hbefore with hbefore | ⟨x, hx, rfl⟩
      · exact .inl hbefore
      · rcases List.mem_cons.mp hx with rfl | hx
        · exact absurd rfl hv
        · rw [hrest, List.mem_append] at hx
          rcases hx with hx | hx
          · rw [hsame x hx] at hv
            exact absurd rfl hv
          · exact .inr ⟨x, hx, rfl⟩

/-- The same when the reading there has been struck off. -/
theorem Pending.drop {ends : Spot → Prop} {n count removed : Nat} {b : Spot} {s : Stack}
    {p p' : Parse} {slice : Stack.Slice} {rest same rest' : List Stack.Slice}
    (h : Pending L ends n b count removed s p (slice :: rest))
    (hspan : rest.span (·.version == slice.version) = (same, rest')) (hp' : p'.Sound L)
    {s₁ : Stack} (htouched : Stack.Touched (slice.version - removed) p.stack s₁)
    (hmerged : Stack.Merged (slice.version - removed) s₁ p'.stack) :
    Pending L ends n b count (removed + 1) s p' rest' := by
  obtain ⟨hrest, hsame, hlater⟩ := span_version hspan h.sorted
  have hmem : ∀ x ∈ rest', x ∈ slice :: rest := by
    intro x hx
    rw [hrest]
    exact List.mem_cons_of_mem _ (List.mem_append_right _ hx)
  obtain ⟨hlow, hin, -⟩ := h.results slice (List.mem_cons_self ..)
  obtain ⟨live, hs⟩ := h.sound.stack
  have hextends := htouched.toExtends.trans hmerged.toExtends
  have hcount : p'.stack.count = p.stack.count - 1 := by
    rw [hmerged.count, htouched.count, if_pos hin]
  -- a reading is the one that was there before, or the one behind it
  have hhead : ∀ w, ∃ u, (u = w ∧ w < slice.version - removed
        ∨ u = w + 1 ∧ slice.version - removed ≤ w)
      ∧ (p'.stack.head w).top = (p.stack.head u).top
      ∧ (p'.stack.head w).status = (p.stack.head u).status := by
    intro w
    obtain ⟨htop, hstatus⟩ := hmerged.heads w
    by_cases hw : w < slice.version - removed
    · rw [if_pos hw] at htop hstatus
      obtain ⟨htop', hstatus'⟩ := htouched.others w (by omega)
      exact ⟨w, .inl ⟨rfl, hw⟩, htop.trans htop', hstatus.trans hstatus'⟩
    · rw [if_neg hw] at htop hstatus
      obtain ⟨htop', hstatus'⟩ := htouched.others (w + 1) (by omega)
      exact ⟨w + 1, .inr ⟨rfl, by omega⟩, htop.trans htop', hstatus.trans hstatus'⟩
  have hspot : ∀ w u, n ≤ u → (p'.stack.head w).top = (p.stack.head u).top →
      p'.stack.spot w = p.stack.spot u := by
    intro w u hu htop
    rw [Stack.spot, Stack.spot, Stack.top, Stack.top, htop]
    refine hextends.spots _ (hs.bound _ ?_)
    exact (hs.heads u id).top_live (by simp [h.active u hu])
  refine {
    sound := hp'
    kept := h.kept.trans ((htouched.kept (by omega) h.kept.count).trans
      (hmerged.kept (by omega) (htouched.count ▸ h.kept.count)))
    active := fun w hw => ?_
    results := fun x hx => ?_
    begins := fun x hx => h.begins x (hmem x hx)
    sorted := ?_
    done := fun w hn hw => ?_ }
  · obtain ⟨u, hu, -, hstatus⟩ := hhead w
    rw [hstatus]
    exact h.active u (by omega)
  · obtain ⟨hlow', hin', hchain⟩ := h.results x (hmem x hx)
    have hlt := hlater x hx
    obtain ⟨u, hu, htop, -⟩ := hhead (x.version - (removed + 1))
    have hueq : u = x.version - removed := by omega
    rw [hueq] at htop
    rw [hspot _ _ (by omega) htop, hcount]
    exact ⟨by omega, by omega, hchain⟩
  · have hsorted := (List.pairwise_cons.mp h.sorted).2
    rw [hrest] at hsorted
    exact (List.pairwise_append.mp hsorted).2.1
  · obtain ⟨u, hu, htop, -⟩ := hhead w
    rw [hspot w u (by omega) htop]
    rcases h.done u (by omega) (by omega) with hbefore | ⟨x, hx, hxu⟩
    · exact .inl hbefore
    · rcases List.mem_cons.mp hx with rfl | hx
      · omega
      · rw [hrest, List.mem_append] at hx
        rcases hx with hx | hx
        · have := hsame x hx
          omega
        · have := hlater x hx
          exact .inr ⟨x, hx, by omega⟩

/-- One result of a reduction: its node and the extras behind it are pushed. -/
theorem Pending.pushNode {n removed : Nat} {b : Spot} {s : Stack} {p : Parse} {r : Reduction}
    {ends : Spot → Prop} {slice : Stack.Slice} {rest : List Stack.Slice}
    (hr : L.Reduces env b r.symbol r.count r.production)
    (h : Pending L ends n b r.count removed s p (slice :: rest)) (ambiguous : Bool)
    {ts : List Tree} {sl : Stack.Slice} (hsl : sl ∈ slice :: rest)
    (hversion : sl.version = slice.version) (hts : ts = sl.trees) :
    let version := slice.version - removed
    let state := p.stack.state version
    let next := env.lang.nextState state r.symbol
    let node := settle ambiguous state (Tree.ofChildren env.lang env.generation r.symbol
      r.production (splitTrailingExtras ts).1)
    let stack := (splitTrailingExtras ts).2.foldl
      (fun s t => s.push env.lang version (some t) false next)
      (p.stack.push env.lang version (some node) false next)
    (∃ live, stack.Sound L live) ∧ Stack.Touched version p.stack stack
      ∧ L.Landed env b r.symbol r.count r.production (stack.spot version) := by
  intro version state next node stack
  obtain ⟨hlow, hin, -⟩ := h.results slice (List.mem_cons_self ..)
  obtain ⟨-, -, hchain⟩ := h.results sl hsl
  have htrimmed := trimmed_splitTrailingExtras (hts ▸ h.begins sl hsl)
  obtain ⟨hsplit, hextras, -⟩ := splitTrailingExtras_spec ts
  obtain ⟨live, hs⟩ := h.sound.stack
  have hactive := h.active version (by omega)
  rw [hversion, ← hts, ← hsplit] at hchain
  have hstands := h.sound.stands (v := version) (by simp [hactive])
  obtain ⟨hstep, hrow⟩ := hr ambiguous hstands hchain hextras htrimmed
  have hs' := hs.push env.lang hactive (some node) false next hstep
    (by simp)
  have hspot := Stack.spot_push p.stack env.lang hin (some node) false next
  obtain ⟨hsound, htouched, hend⟩ := Stack.Sound.pushAll env.lang (splitTrailingExtras ts).2 hs'
    (by simpa using hin) ((Stack.status_push ..).trans hactive) (by rw [hspot]; exact hrow)
  refine ⟨hsound, (Stack.touched_push ..).trans htouched, p.stack.spot version, _, _, ambiguous,
    hstands, hchain, hextras, htrimmed, ?_⟩
  exact hend.trans (congrArg (·.along next (splitTrailingExtras ts).2) hspot)

theorem reduceSlices_spec {n : Nat} {b : Spot} {s : Stack} {r : Reduction}
    (hr : L.Reduces env b r.symbol r.count r.production) (v : Nat) (ambiguous : Bool)
    (halted fuel : Nat) :
    ∀ {p : Parse} {removed : Nat} {slices : List Stack.Slice}, slices.length < fuel →
      Pending L (L.Landed env b r.symbol r.count r.production) n b r.count removed s p slices →
      ∃ removed', Pending L (L.Landed env b r.symbol r.count r.production) n b r.count removed' s
        (reduceSlices env r v ambiguous halted fuel p removed slices) [] := by
  induction fuel with
  | zero => exact fun hlt => absurd hlt (Nat.not_lt_zero _)
  | succ fuel ih =>
    intro p removed slices hlt h
    cases slices with
    | nil => exact ⟨removed, h⟩
    | cons slice rest =>
      rw [reduceSlices]
      cases hspan : rest.span (·.version == slice.version) with
      | mk same rest' =>
        obtain ⟨hrest, hsame, -⟩ := span_version hspan h.sorted
        have hlength : rest'.length < fuel := by
          have : rest.length = same.length + rest'.length := by rw [hrest, List.length_append]
          simp only [List.length_cons] at hlt
          omega
        simp only
        split
        · -- too many readings: this one is struck off
          refine ih hlength (h.drop hspan ?_ (.refl _ _) ?_)
          · obtain ⟨live, hs⟩ := h.sound.stack
            exact h.sound.onStack ⟨live, hs.remove _⟩
          · exact Stack.merged_remove p.stack _
        · obtain ⟨ts, hts, hchoose⟩ :=
            chooseChildren_spec env r.symbol r.production same slice.trees
          have hnode : ∃ sl ∈ slice :: rest, sl.version = slice.version ∧ ts = sl.trees := by
            rcases hts with rfl | ⟨sl, hsl, rfl⟩
            · exact ⟨slice, List.mem_cons_self .., rfl, rfl⟩
            · refine ⟨sl, List.mem_cons_of_mem _ ?_, hsame sl hsl, rfl⟩
              rw [hrest]
              exact List.mem_append_left _ hsl
          obtain ⟨sl, hsl, hversion, htrees⟩ := hnode
          obtain ⟨⟨live, hs⟩, htouched, hlanded⟩ :=
            h.pushNode hr ambiguous hsl hversion htrees
          cases hsplit : splitTrailingExtras slice.trees with
          | mk children extras =>
            rw [hsplit] at hchoose
            simp only at hchoose ⊢
            rw [hchoose]
            have hsound := h.sound.withStack ⟨live, hs⟩
            obtain ⟨hmerge, hcases⟩ := mergeIntoEarlier_spec env v
              (slice.version - removed) (slice.version - removed) 0 hsound
            rcases hcases with ⟨hno, hsame'⟩ | ⟨hyes, hmerged⟩
            · refine ih hlength ?_
              rw [Parse.onStack, hno, hsame']
              exact h.keep hspan hsound htouched hlanded
            · refine ih hlength ?_
              rw [Parse.onStack, hyes]
              exact h.drop hspan hmerge htouched hmerged

/-- What reductions on a reading lead to. -/
structure Reduced (L : Law) (ends : Spot → Prop) (p p' : Parse) : Prop where
  sound : p'.Sound L
  kept : Stack.Kept p.stack.count p.stack p'.stack
  /-- The new readings go on, and stand where readings are to stand in the end. -/
  active : ∀ w, p.stack.count ≤ w → (p'.stack.head w).status = .active
  ends : ∀ w, p.stack.count ≤ w → w < p'.stack.count → ends (p'.stack.spot w)

/-- **Reducing keeps to the law**, if the law allows the node to be put in the place of its
children. -/
theorem Sound.reduce (h : p.Sound L) {v : Nat} (hv : (p.stack.head v).status ≠ .halted)
    {r : Reduction} (hr : L.Reduces env (p.stack.spot v) r.symbol r.count r.production)
    (fragile : Bool) :
    Reduced L (L.Landed env (p.stack.spot v) r.symbol r.count r.production) p
        (p.reduce env v r fragile).1
      ∧ ∀ w, (p.reduce env v r fragile).2 = some w →
        w = p.stack.count ∧ w < (p.reduce env v r fragile).1.stack.count := by
  obtain ⟨live, hs⟩ := h.stack
  have hpopped := hs.popCount hv r.count
  have hpending : Pending L (L.Landed env (p.stack.spot v) r.symbol r.count r.production)
      p.stack.count (p.stack.spot v) r.count 0 p.stack
      { p with stack := (p.stack.popCount v r.count).1 } (p.stack.popCount v r.count).2 := {
    sound := h.withStack ⟨live, hpopped.sound hs fun q hq => hq.1.1⟩
    kept := hpopped.kept
    active := fun w hw => by
      by_cases hlt : w < (p.stack.popCount v r.count).1.count
      · exact (hpopped.new w hw hlt).1
      · show ((p.stack.popCount v r.count).1.head w).status = _
        rw [Stack.head_of_le (Nat.le_of_not_lt hlt)]
        rfl
    results := fun sl hsl => by
      obtain ⟨hlow, hhigh, -⟩ := hpopped.results sl hsl
      obtain ⟨q, ⟨-, hcount, -⟩, -, hchain⟩ := hpopped.chain (fun q hq => hq.1) hsl
      exact ⟨hlow, hhigh, hcount ▸ hchain⟩
    begins := fun sl hsl => by
      obtain ⟨q, ⟨-, -, hbegins⟩, htrees, -⟩ := hpopped.chain (fun q hq => hq.1) hsl
      exact htrees ▸ hbegins
    sorted := hpopped.sorted
    done := fun w hn hw => by
      obtain ⟨sl, hsl, hversion⟩ := hpopped.covered w hn hw
      exact .inr ⟨sl, hsl, hversion⟩ }
  rw [Parse.reduce]
  cases hpop : p.stack.popCount v r.count with
  | mk stack slices =>
    rw [hpop] at hpending
    simp only at hpending ⊢
    obtain ⟨removed, hend⟩ := reduceSlices_spec hr v
      (fragile || decide (1 < slices.length) || decide (1 < p.stack.count)) stack.haltedCount
      (slices.length + 1) (Nat.lt_succ_self _) hpending
    refine ⟨⟨hend.sound, hend.kept, hend.active, fun w hn hw => ?_⟩, fun w hw => ?_⟩
    · rcases hend.done w hn hw with hlanded | ⟨sl, hsl, -⟩
      · exact hlanded
      · simp at hsl
    · split at hw
      · next hlt =>
        simp only [Option.some.injEq] at hw
        exact ⟨hw.symm, hw ▸ hlt⟩
      · simp at hw

end Parse

end SyntaxKit
