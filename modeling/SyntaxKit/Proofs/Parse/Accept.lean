import SyntaxKit.Proofs.Parse.Reduce

/-!
# Accepting keeps to the law

A reading that ends pushes the end of the text, and before that perhaps an empty node in error,
without regard to the law: the reading is popped at once and goes no further.  What is popped is a
chain from the bottom of the stack to the last vertex that obeys the law, with those subtrees behind
it; a law says of which such lists the root may be kept.
-/

namespace SyntaxKit

namespace Stack

variable {L : Law} {live : Nat → Prop}

/-- The vertex `j` is reached from `i` by pushes without regard to the law, the last subtree pushed
standing last in the list. -/
inductive Capped (s : Stack) (i : Nat) : Nat → List Tree → Prop
  | here : Capped s i i []
  | linked {j k : Nat} {t : Tree} {tail : List Tree} (links : (s.vertex j).links = [⟨k, some t, false⟩])
      (rest : Capped s i k tail) : Capped s i j (tail ++ [t])

theorem vertex_of_le {s : Stack} {i : Nat} (h : s.vertices.size ≤ i) : s.vertex i = default := by
  rw [vertex, Array.getD_eq_getD_getElem?, Array.getElem?_eq_none h]
  rfl

theorem Capped.push {s : Stack} {i j : Nat} {tail : List Tree} (h : Capped s i j tail)
    (lang : Language) (v : Nat) (tree : Option Tree) (pending : Bool) (state : ParseState) :
    Capped (s.push lang v tree pending state) i j tail := by
  induction h with
  | here => exact .here
  | @linked j k t tail links rest ih =>
    refine .linked ?_ ih
    rw [vertex_push, if_neg, links]
    rintro rfl
    rw [vertex_of_le (Nat.le_refl _)] at links
    simp [default, instInhabitedVertex.default] at links

/-- After a push without regard to the law everything but the reading is as it was. -/
theorem SoundBut.push_dead {s : Stack} {v : Nat} (hs : SoundBut L live (fun w => w = v) s)
    (lang : Language) (tree : Option Tree) (pending : Bool) (state : ParseState) :
    SoundBut L live (fun w => w = v) (s.push lang v tree pending state) := by
  have hvertex : ∀ i, live i →
      (s.push lang v tree pending state).vertex i = s.vertex i := fun i hi => by
    have := hs.bound i hi
    rw [vertex_push, if_neg (by omega)]
  refine {
    bound := fun i hi => Nat.lt_of_lt_of_le (hs.bound i hi) (extends_push ..).size
    origin := hs.origin
    stands := fun i hi => by
      rw [hvertex i hi]
      exact hs.stands i hi
    links := fun i hi l hl => by
      rw [hvertex i hi] at hl ⊢
      obtain ⟨hbelow, hlink⟩ := hs.links i hi l hl
      rw [hvertex _ hbelow]
      exact ⟨hbelow, hlink⟩
    bottom := fun i hi hnil => by
      rw [hvertex i hi] at hnil ⊢
      exact hs.bottom i hi hnil
    heads := fun w hw => ?_ }
  obtain ⟨htop, hstatus⟩ := sameHead_push s lang hw tree pending state
  refine headSound_congr htop hstatus ((hs.heads w hw).mono (fun _ h => h) fun hi => ?_)
  rw [hvertex _ hi]

theorem SoundBut.remove {s : Stack} {v w : Nat} (hs : SoundBut L live (fun u => u = v) s)
    (hv : v < w) : SoundBut L live (fun u => u = v) (s.remove w) := by
  refine hs.of_vertices rfl fun u hu => ?_
  rw [head_remove]
  split
  · exact hs.heads u hu
  · exact hs.heads (u + 1) (by omega)

/-- A path down from a reading that ends: among the subtrees pushed last, or further down. -/
def Ending (L : Law) (live : Nat → Prop) (s : Stack) (i : Nat) (tail : List Tree) (p : Path) :
    Prop :=
  (∃ front, Capped s i p.vertex front ∧ front ++ p.trees = tail)
    ∨ live p.vertex ∧ ∃ ts n, L.Chain (s.vertex p.vertex).spot ts n (s.vertex i).spot
      ∧ p.trees = ts ++ tail

/-- Popping the whole stack of a reading that ends. -/
theorem SoundBut.popped_ending {s : Stack} {v i : Nat} {tail : List Tree}
    (hs : SoundBut L live (fun w => w = v) s) (hi : live i)
    (hcapped : Capped s i (s.head v).top tail) :
    Popped (fun p => (live p.vertex ∧ p.vertex = 0) ∧ ∃ ts n,
      L.Chain Spot.origin ts n (s.vertex i).spot ∧ p.trees = ts ++ tail) s
      (s.popAll v).1 (s.popAll v).2 := by
  -- one step further down from a vertex that obeys the law
  have hfollow : ∀ (p : Path) (ts : List Tree) (n : Nat), live p.vertex →
      L.Chain (s.vertex p.vertex).spot ts n (s.vertex i).spot → p.trees = ts ++ tail →
      ∀ link ∈ (s.vertex p.vertex).links, Ending L live s i tail (p.follow link) := by
    intro p ts n hlive hchain htrees link hlink
    obtain ⟨hbelow, hstep, -⟩ := hs.links _ hlive link hlink
    rw [Path.follow]
    cases htree : link.tree with
    | none =>
      rw [htree] at hstep
      exact .inr ⟨hbelow, ts, _, .mark hstep hchain, htrees⟩
    | some t =>
      rw [htree] at hstep
      have htrees' : t :: p.trees = t :: ts ++ tail := by rw [htrees, List.cons_append]
      simp only
      split
      · exact .inr ⟨hbelow, t :: ts, _, .tree hstep hchain, htrees'⟩
      · exact .inr ⟨hbelow, t :: ts, _, .tree hstep hchain, htrees'⟩
  have hpopped := popped_popAll (s := s) (v := v) (P := Ending L live s i tail)
    (.inl ⟨tail, hcapped, by simp⟩) (by
      intro p hp link hlink
      rcases hp with ⟨front, hcap, htrees⟩ | ⟨hlive, ts, n, hchain, htrees⟩
      · cases hcap with
        | here =>
          have htrees' : p.trees = [] ++ tail := htrees
          exact hfollow p [] 0 hi (.nil _) htrees' link hlink
        | @linked _ k t front' hlinks hrest =>
          rw [hlinks, List.mem_singleton] at hlink
          subst hlink
          left
          have htrees' : front' ++ t :: p.trees = tail := by rw [← htrees]; simp
          rw [Path.follow]
          simp only
          split
          · exact ⟨front', hrest, htrees'⟩
          · exact ⟨front', hrest, htrees'⟩
      · exact hfollow p ts n hlive hchain htrees link hlink)
  have hend : ∀ p, (Ending L live s i tail p ∧ (s.vertex p.vertex).links = []) →
      (live p.vertex ∧ p.vertex = 0) ∧ ∃ ts n, L.Chain Spot.origin ts n (s.vertex i).spot
        ∧ p.trees = ts ++ tail := by
    rintro p ⟨hp, hnil⟩
    rcases hp with ⟨front, hcap, htrees⟩ | ⟨hlive, ts, n, hchain, htrees⟩
    · generalize hvertex : p.vertex = j at hcap hnil ⊢
      cases hcap with
      | here =>
        refine ⟨⟨hi, (hs.bottom i hi hnil).1⟩, [], 0, ?_, htrees⟩
        rw [(hs.bottom i hi hnil).2]
        exact .nil _
      | linked hlinks _ =>
        rw [hlinks] at hnil
        simp at hnil
    · rw [(hs.bottom _ hlive hnil).2] at hchain
      exact ⟨⟨hlive, (hs.bottom _ hlive hnil).1⟩, ts, n, hchain, htrees⟩
  exact {
    vertices := hpopped.vertices
    count := hpopped.count
    old := hpopped.old
    new := fun w hn hw => by
      obtain ⟨hstatus, p, hp, htop⟩ := hpopped.new w hn hw
      exact ⟨hstatus, p, hend p hp, htop⟩
    results := fun sl hsl => by
      obtain ⟨hlow, hhigh, p, hp, hresult⟩ := hpopped.results sl hsl
      exact ⟨hlow, hhigh, p, hend p hp, hresult⟩
    sorted := hpopped.sorted
    covered := hpopped.covered
    distinct := hpopped.distinct }

end Stack

namespace Parse

variable {L : Law} {env : Setting} {p : Parse}

/-! ## The root -/

/-- The production of a tree, of no account for a token. -/
def productionOf : Tree → Nat
  | .branch b _ => b.production
  | .token _ => 0

/-- The root stands over the children of the last tree that is not an extra, between the trees before
that and the extras behind it. -/
theorem rootOf_eq_some {trees : List Tree} {root : Tree} (h : rootOf env trees = some root) :
    ∃ front top extras, trees = front ++ top :: extras ∧ top.isExtra = false
      ∧ (∀ e ∈ extras, e.isExtra = true)
      ∧ root = Tree.ofChildren env.lang env.generation top.symbol (productionOf top)
        (front ++ top.children ++ extras) := by
  rw [rootOf, List.span_eq_takeWhile_dropWhile] at h
  cases hdrop : trees.reverse.dropWhile Tree.isExtra with
  | nil => simp [hdrop] at h
  | cons top before =>
    have hextra : top.isExtra = false := by
      have hne : trees.reverse.dropWhile Tree.isExtra ≠ [] := by simp [hdrop]
      have hhead := List.head_dropWhile_not Tree.isExtra hne
      simpa [hdrop] using hhead
    rw [hdrop] at h
    simp only [Option.some.injEq] at h
    refine ⟨before.reverse, top, (trees.reverse.takeWhile Tree.isExtra).reverse, ?_, hextra,
      fun e he => List.mem_takeWhile_imp (List.mem_reverse.mp he), ?_⟩
    · have hsplit := List.takeWhile_append_dropWhile (p := Tree.isExtra) (l := trees.reverse)
      rw [hdrop] at hsplit
      have hreverse := congrArg List.reverse hsplit
      rw [List.reverse_reverse, List.reverse_append, List.reverse_cons, List.append_assoc] at hreverse
      exact hreverse.symm
    · cases top <;> exact h.symm

/-- If the last tree is an extra, then it is the last child of the root. -/
theorem rootOf_concat_eq_some {trees : List Tree} {last root : Tree}
    (hlast : last.isExtra = true) (h : rootOf env (trees ++ [last]) = some root) :
    ∃ front top extras, trees = front ++ top :: extras ∧ top.isExtra = false
      ∧ (∀ e ∈ extras, e.isExtra = true)
      ∧ root = Tree.ofChildren env.lang env.generation top.symbol (productionOf top)
        (front ++ top.children ++ (extras ++ [last])) := by
  obtain ⟨front, top, behind, htrees, htop, hbehind, rfl⟩ := rootOf_eq_some h
  rcases List.eq_nil_or_concat behind with rfl | ⟨extras, last', rfl⟩
  · obtain ⟨-, heq⟩ := List.append_inj' htrees rfl
    obtain rfl : last = top := by simpa using heq
    exact absurd (hlast.symm.trans htop) (by simp)
  · rw [List.concat_eq_append, ← List.cons_append, ← List.append_assoc] at htrees
    obtain ⟨hleft, hright⟩ := List.append_inj' htrees rfl
    obtain rfl : last = last' := by simpa using hright
    rw [List.concat_eq_append] at hbehind ⊢
    exact ⟨front, top, extras, hleft, htop, fun e he => hbehind e (List.mem_append_left _ he), rfl⟩

/-- The root over a list that ends with a tree that is not an extra and one that is. -/
theorem rootOf_append {trees : List Tree} {top last : Tree} (htop : top.isExtra = false)
    (hlast : last.isExtra = true) :
    rootOf env (trees ++ [top, last])
      = some (Tree.ofChildren env.lang env.generation top.symbol (productionOf top)
        (trees ++ top.children ++ [last])) := by
  have hreverse : (trees ++ [top, last]).reverse = last :: top :: trees.reverse := by simp
  rw [rootOf, hreverse, List.span_eq_takeWhile_dropWhile]
  cases top <;> simp [hlast, htop, productionOf]

/-! ## Keeping the best -/

/-- Keeps the tree of one result if it is the best so far. -/
def keepBest (env : Setting) (p : Parse) (slice : Stack.Slice) : Parse :=
  match rootOf env slice.trees with
  | none => p
  | some root =>
    let finished :=
      match p.finished with
      | some best => if prefersSecond best root then root else best
      | none => root
    { p with finished := some finished, accepted := p.accepted + 1 }

theorem accept_eq (env : Setting) (p : Parse) (v : Nat) (lookahead : Tree) :
    p.accept env v lookahead
      = match (p.stack.push env.lang v (some lookahead) false ParseState.initial).popAll v with
        | (stack, slices) =>
          let p := slices.foldl (keepBest env) { p with stack }
          match slices with
          | [] => p.onStack (·.halt v)
          | first :: _ => p.onStack fun s => (s.remove first.version).halt v := rfl

/-- Keeping the best of the complete trees changes nothing else. -/
theorem foldl_keepBest (env : Setting) (slices : List Stack.Slice)
    (hwhole : ∀ sl ∈ slices, ∀ root, rootOf env sl.trees = some root → L.whole root) :
    ∀ {p : Parse}, (∀ t, p.finished = some t → L.whole t) →
      (slices.foldl (keepBest env) p).stack = p.stack
        ∧ (slices.foldl (keepBest env) p).cached = p.cached
        ∧ (slices.foldl (keepBest env) p).walk = p.walk
        ∧ ∀ t, (slices.foldl (keepBest env) p).finished = some t → L.whole t := by
  induction slices with
  | nil => exact fun hp => ⟨rfl, rfl, rfl, hp⟩
  | cons slice rest ih =>
    intro p hp
    have hrest : ∀ {p : Parse}, (∀ t, p.finished = some t → L.whole t) → _ :=
      ih fun sl hsl => hwhole sl (List.mem_cons_of_mem _ hsl)
    rw [List.foldl_cons]
    have hstep : (keepBest env p slice).stack = p.stack
        ∧ (keepBest env p slice).cached = p.cached
        ∧ (keepBest env p slice).walk = p.walk
        ∧ ∀ t, (keepBest env p slice).finished = some t → L.whole t := by
      rw [keepBest]
      cases hroot : rootOf env slice.trees with
      | none => exact ⟨rfl, rfl, rfl, hp⟩
      | some root =>
        have hnew := hwhole slice (List.mem_cons_self ..) root hroot
        refine ⟨rfl, rfl, rfl, fun t ht => ?_⟩
        simp only [Option.some.injEq] at ht
        subst ht
        split
        · next best hbest =>
          split
          · exact hnew
          · exact hp best hbest
        · exact hnew
    obtain ⟨hstack, hcached, hwalk, hfinished⟩ := hstep
    obtain ⟨hstack', hcached', hwalk', hfinished'⟩ := hrest hfinished
    exact ⟨hstack'.trans hstack, hcached'.trans hcached, hwalk'.trans hwalk, hfinished'⟩

/-- **Ending a reading keeps to the law**, if the root over everything below it may be kept. -/
theorem Sound.accept (env : Setting) {v i : Nat} {tail : List Tree} (lookahead : Tree)
    {live : Nat → Prop}
    (hs : Stack.SoundBut L live (fun w => w = v) p.stack)
    (hcached : ∀ offset t, p.cached = some (offset, t) →
      ∃ a, L.stands a ∧ a.position.bytes = offset ∧ L.waits a.position (.token t))
    (hwalk : Spare L p.walk)
    (hfinished : ∀ t, p.finished = some t → L.whole t)
    (hv : v < p.stack.count) (hi : live i)
    (hcapped : Stack.Capped p.stack i (p.stack.head v).top tail)
    (hwhole : ∀ ts n root, L.Chain Spot.origin ts n (p.stack.vertex i).spot →
      rootOf env (ts ++ (tail ++ [lookahead])) = some root → L.whole root) :
    (p.accept env v lookahead).Sound L
      ∧ v < (p.accept env v lookahead).stack.count
      ∧ Stack.Moved L v p.stack (p.accept env v lookahead).stack := by
  have hpushed := hs.push_dead env.lang (some lookahead) false ParseState.initial
  have htop := (Stack.head_push p.stack env.lang hv (some lookahead) false ParseState.initial).1
  have hcapped' : Stack.Capped (p.stack.push env.lang v (some lookahead) false ParseState.initial)
      i ((p.stack.push env.lang v (some lookahead) false ParseState.initial).head v).top
      (tail ++ [lookahead]) := by
    rw [htop]
    refine .linked ?_ (hcapped.push env.lang v (some lookahead) false ParseState.initial)
    rw [Stack.vertex_push, if_pos rfl, Stack.links_above]
  have hpopped := hpushed.popped_ending hi hcapped'
  have hspot : ((p.stack.push env.lang v (some lookahead) false ParseState.initial).vertex
      i).spot = (p.stack.vertex i).spot := (Stack.extends_push ..).spots _ (hs.bound _ hi)
  rw [hspot] at hpopped
  rw [accept_eq]
  cases hpop : (p.stack.push env.lang v (some lookahead) false ParseState.initial).popAll v with
  | mk stack slices =>
    rw [hpop] at hpopped
    have hstack : Stack.SoundBut L live (fun w => w = v) stack := by
      have hbut := hpopped.soundBut hpushed fun q hq => hq.1.1
      exact hbut.of_vertices rfl fun w hw => hbut.heads w fun h => hw h.1
    obtain ⟨hsame, hcached', hwalk', hfinished'⟩ := foldl_keepBest (L := L) env slices
      (p := { p with stack }) (by
        intro sl hsl root hroot
        obtain ⟨-, -, q, ⟨-, ts, n, hchain, htrees⟩, hq, -⟩ := hpopped.results sl hsl
        rw [hq, htrees] at hroot
        exact hwhole ts n root hchain hroot) hfinished
    have hgrown : p.stack.count ≤ stack.count := by
      have := hpopped.count
      rwa [Stack.count_push] at this
    have hcount : v < stack.count := Nat.lt_of_lt_of_le hv hgrown
    have hold : ∀ w < p.stack.count, w ≠ v → Stack.SameHead p.stack stack w := by
      intro w hw hne
      have hsame := Stack.sameHead_push p.stack env.lang hne (some lookahead) false
        ParseState.initial
      rw [Stack.SameHead, hpopped.old w (by rw [Stack.count_push]; exact hw)]
      exact hsame
    have hextends : Stack.Extends p.stack stack :=
      (Stack.extends_push ..).trans (.of_vertices hpopped.vertices)
    -- the reading has ended, and no other one has been added
    have hmoved : ∀ s' : Stack, s'.vertices = stack.vertices → s'.count = p.stack.count →
        (∀ w < p.stack.count, s'.head w = stack.head w) →
        Stack.Moved L v p.stack (s'.halt v) := by
      intro s' hvertices hcount' hheads
      refine ⟨hextends.trans (.of_vertices hvertices), ?_, fun w hw hne => ?_,
        fun w hw hlt hstatus => ?_⟩
      · rw [Stack.halt, Stack.count_setHead, hcount']
      · rw [Stack.SameHead, Stack.halt, Stack.head_setHead, if_neg fun h => hne h.1, hheads w hw]
        exact hold w hw hne
      · rw [Stack.halt, Stack.count_setHead, hcount'] at hlt
        obtain rfl : w = v := hw.resolve_left (Nat.not_le.mpr hlt)
        rw [Stack.halt, Stack.head_setHead, if_pos ⟨rfl, hcount' ▸ hv⟩] at hstatus
        exact absurd rfl hstatus
    simp only
    generalize hkept : slices.foldl (keepBest env) { p with stack } = kept
      at hsame hcached' hwalk' hfinished'
    -- the reading has ended, whatever else is done
    have hend : ∀ s' : Stack, s'.Sound L live → ({ kept with stack := s' } : Parse).Sound L := by
      intro s' hs'
      refine ⟨⟨live, hs'⟩, ?_, ?_, hfinished'⟩
      · rw [hcached']
        exact hcached
      · rw [hwalk']
        exact hwalk
    cases slices with
    | nil =>
      simp only [Parse.onStack, hsame]
      refine ⟨hend _ hstack.halt, by simpa [Stack.halt] using hcount, hmoved stack rfl ?_ fun _ _ => rfl⟩
      refine Nat.le_antisymm (Nat.le_of_not_lt fun hlt => ?_) hgrown
      obtain ⟨sl, hsl, -⟩ := hpopped.covered p.stack.count (by rw [Stack.count_push]) hlt
      simp at hsl
    | cons first rest =>
      obtain ⟨hlow, hhigh, -⟩ := hpopped.results first (List.mem_cons_self ..)
      rw [Stack.count_push] at hlow
      simp only [Parse.onStack, hsame]
      change first.version < stack.count at hhigh
      -- every new reading stands at the bottom, so there is only one
      have hbottom : ∀ w, p.stack.count ≤ w → w < stack.count → (stack.head w).top = 0 := by
        intro w hw hlt
        obtain ⟨-, q, ⟨⟨-, hzero⟩, -⟩, htop⟩ := hpopped.new w (by rwa [Stack.count_push]) hlt
        exact htop.trans hzero
      have hsingle : ∀ w, p.stack.count ≤ w → w < stack.count → w = first.version := by
        intro w hw hlt
        exact hpopped.distinct w first.version (by rwa [Stack.count_push]) hlt
          (by rwa [Stack.count_push]) hhigh ((hbottom w hw hlt).trans (hbottom _ hlow hhigh).symm)
      have honly : stack.count = p.stack.count + 1 := by
        have hfirst := hsingle p.stack.count (Nat.le_refl _) (by omega)
        by_contra hmore
        have hsecond := hsingle (p.stack.count + 1) (by omega) (by omega)
        omega
      have hremoved : (stack.remove first.version).count = p.stack.count := by
        rw [Stack.count_remove, if_pos hhigh, honly]
        rfl
      refine ⟨hend _ (hstack.remove (by omega)).halt, ?_, hmoved _ rfl hremoved fun w hw => ?_⟩
      · rw [Stack.halt, Stack.count_setHead, hremoved]
        exact hv
      · rw [Stack.head_remove, if_pos (by omega)]

end Parse

end SyntaxKit
