import SyntaxKit.Proofs.Parse.Law

/-!
# The operations on stacks keep to the law

Changing the list of readings keeps a stack sound as long as every reading listed afterwards stands
where some sound one stood.  Pushing keeps it sound if the law allows the step, and joining two
readings always does: the places joined differ in nothing that matters to a law.

`Stack.Kept n` says that an operation has left the first `n` readings, and all vertices that were
there, where they stood.
-/

namespace SyntaxKit

namespace Stack

variable {L : Law} {live : Nat → Prop}

/-! ## What an operation leaves as it was -/

/-- The vertices that were there stand where they stood. -/
structure Extends (s s' : Stack) : Prop where
  size : s.vertices.size ≤ s'.vertices.size
  spots : ∀ i < s.vertices.size, (s'.vertex i).spot = (s.vertex i).spot

/-- A reading is on the same vertex and has the same status. -/
def SameHead (s s' : Stack) (v : Nat) : Prop :=
  (s'.head v).top = (s.head v).top ∧ (s'.head v).status = (s.head v).status

/-- The vertices stand where they stood, and so do the first `n` readings. -/
structure Kept (n : Nat) (s s' : Stack) : Prop extends Extends s s' where
  count : n ≤ s'.count
  heads : ∀ v < n, SameHead s s' v

theorem Extends.refl (s : Stack) : Extends s s := ⟨Nat.le_refl _, fun _ _ => rfl⟩

theorem Extends.trans {s s' s'' : Stack} (h : Extends s s') (h' : Extends s' s'') :
    Extends s s'' where
  size := Nat.le_trans h.size h'.size
  spots i hi := (h'.spots i (Nat.lt_of_lt_of_le hi h.size)).trans (h.spots i hi)

theorem Extends.of_vertices {s s' : Stack} (h : s'.vertices = s.vertices) : Extends s s' where
  size := Nat.le_of_eq (by rw [h])
  spots i _ := by rw [vertex, vertex, h]

theorem SameHead.trans {s s' s'' : Stack} {v : Nat} (h : SameHead s s' v)
    (h' : SameHead s' s'' v) : SameHead s s'' v := ⟨h'.1.trans h.1, h'.2.trans h.2⟩

theorem Extends.spot {s s' : Stack} (h : Extends s s') {v : Nat} (hv : SameHead s s' v)
    (htop : (s.head v).top < s.vertices.size) : s'.spot v = s.spot v := by
  rw [Stack.spot, Stack.spot, top, top, hv.1]
  exact h.spots _ htop

theorem Kept.refl {n : Nat} {s : Stack} (h : n ≤ s.count) : Kept n s s :=
  ⟨.refl s, h, fun _ _ => ⟨rfl, rfl⟩⟩

theorem Kept.trans {n : Nat} {s s' s'' : Stack} (h : Kept n s s') (h' : Kept n s' s'') :
    Kept n s s'' :=
  ⟨h.toExtends.trans h'.toExtends, h'.count, fun v hv => (h.heads v hv).trans (h'.heads v hv)⟩

theorem Kept.mono {m n : Nat} {s s' : Stack} (h : Kept n s s') (hm : m ≤ n) : Kept m s s' :=
  ⟨h.toExtends, Nat.le_trans hm h.count, fun v hv => h.heads v (Nat.lt_of_lt_of_le hv hm)⟩

/-- Only the readings have changed, the first `n` in neither top nor status. -/
theorem Kept.of_vertices {n : Nat} {s s' : Stack} (hvertices : s'.vertices = s.vertices)
    (hcount : n ≤ s'.count) (hheads : ∀ v < n, SameHead s s' v) : Kept n s s' :=
  ⟨.of_vertices hvertices, hcount, hheads⟩

/-! ## The list of readings -/

theorem headSound_congr {s : Stack} {h h' : Head} (htop : h'.top = h.top)
    (hstatus : h'.status = h.status) (hs : HeadSound L live s h) : HeadSound L live s h' := by
  rw [HeadSound] at hs ⊢
  rw [hstatus]
  split at hs <;> simp_all

theorem headSound_active {s : Stack} {h : Head} (hstatus : h.status = .active)
    (htop : live h.top) : HeadSound L live s h := by
  rw [HeadSound, hstatus]
  exact htop

theorem SoundBut.setHead {but : Nat → Prop} {s : Stack} (hs : SoundBut L live but s) (v : Nat)
    {h : Head} (hh : HeadSound L live s h) : SoundBut L live (fun w => but w ∧ w ≠ v)
      (s.setHead v h) := by
  refine hs.of_vertices rfl fun w hw => ?_
  rw [head_setHead]
  split
  · exact hh
  · next hwv =>
    by_cases hin : w = v
    · -- the reading is not in the list, so that it stands at the origin
      have hout : s.count ≤ v := by
        by_contra hlt
        exact hwv ⟨hin, Nat.lt_of_not_le hlt⟩
      rw [hin, head_of_le hout]
      exact hs.origin
    · exact hs.heads w fun hbut => hw ⟨hbut, hin⟩

theorem Sound.setHead {s : Stack} (hs : Sound L live s) (v : Nat) {h : Head}
    (hh : HeadSound L live s h) : Sound L live (s.setHead v h) := by
  have hbut := SoundBut.setHead hs v hh
  exact hbut.of_vertices rfl fun w _ => hbut.heads w (by simp)

theorem Sound.remove {s : Stack} (hs : Sound L live s) (v : Nat) : Sound L live (s.remove v) := by
  refine hs.of_vertices rfl fun w _ => ?_
  rw [head_remove]
  split
  · exact hs.heads w id
  · exact hs.heads (w + 1) id

theorem Sound.addHead {s : Stack} (hs : Sound L live s) {h : Head} (hh : HeadSound L live s h) :
    Sound L live (s.addHead h) := by
  refine hs.of_vertices rfl fun w _ => ?_
  rw [head_addHead]
  split
  · exact hh
  · exact hs.heads w id

theorem Sound.replace {s : Stack} (hs : Sound L live s) (v target : Nat) :
    Sound L live (s.replace v target) := by
  rw [Stack.replace]
  split
  · exact hs
  · have hh : HeadSound L live s { s.head v with
        summary := (s.head v).summary.orElse fun _ => (s.head target).summary } :=
      headSound_congr (h := s.head v) rfl rfl (hs.heads v id)
    exact (hs.setHead target hh).remove v

theorem Sound.swap {s : Stack} (hs : Sound L live s) (v w : Nat) : Sound L live (s.swap v w) := by
  have hv := hs.setHead v (hs.heads w id)
  refine hv.setHead w ?_
  exact hs.heads v id

theorem Sound.fork {s : Stack} (hs : Sound L live s) (v : Nat) : Sound L live (s.fork v) :=
  hs.addHead (headSound_congr rfl rfl (hs.heads v id))

theorem Sound.halt {s : Stack} (hs : Sound L live s) (v : Nat) : Sound L live (s.halt v) :=
  hs.setHead v trivial

/-- A reading that is not sound is sound once it has ended. -/
theorem SoundBut.halt {s : Stack} {v : Nat} (hs : SoundBut L live (fun w => w = v) s) :
    Sound L live (s.halt v) := by
  have hbut := SoundBut.setHead hs v (h := { s.head v with status := .halted }) trivial
  exact hbut.of_vertices rfl fun w _ => hbut.heads w fun h => h.2 h.1

theorem Sound.resume {s : Stack} (hs : Sound L live s) {v : Nat}
    (hv : (s.head v).status ≠ .halted) : Sound L live (s.resume v) :=
  hs.setHead v (headSound_active rfl ((hs.heads v id).top_live hv))

theorem Sound.pause {s : Stack} (hs : Sound L live s) {v : Nat} {t : Tree}
    (hv : (s.head v).status ≠ .halted) (ht : L.waits (s.position v) t) :
    Sound L live (s.pause v t) :=
  hs.setHead v ⟨(hs.heads v id).top_live hv, ht⟩

theorem head_take (s : Stack) (n w : Nat) :
    ({ s with heads := s.heads.take n } : Stack).head w
      = if w < n then s.head w else default := by
  rw [head_eq, head_eq]
  simp only [Array.take_eq_extract, Array.getElem?_extract, Nat.sub_zero, Nat.zero_add]
  by_cases hn : w < n
  · by_cases hw : w < s.heads.size
    · rw [if_pos (Nat.lt_min.mpr ⟨hn, hw⟩), if_pos hn]
    · simp [hn, hw]
  · rw [if_neg (by omega), if_neg hn]
    rfl

theorem Sound.take {s : Stack} (hs : Sound L live s) (n : Nat) :
    Sound L live { s with heads := s.heads.take n } := by
  refine hs.of_vertices rfl fun w _ => ?_
  rw [head_take]
  split
  · exact hs.heads w id
  · exact hs.origin

/-- A reading may forget what it knows besides where it stands. -/
theorem Sound.retitle {s : Stack} (hs : Sound L live s) (v : Nat) {h : Head}
    (htop : h.top = (s.head v).top) (hstatus : h.status = (s.head v).status) :
    Sound L live (s.setHead v h) :=
  hs.setHead v (headSound_congr htop hstatus (hs.heads v id))

theorem Sound.nodesSinceError {s : Stack} (hs : Sound L live s) (v : Nat) :
    Sound L live (s.nodesSinceError v).1 := by
  rw [Stack.nodesSinceError]
  split
  · exact hs.retitle v rfl rfl
  · exact hs

/-! ### What happens to the others -/

theorem SameHead.of_setHead {s : Stack} {v : Nat} {h : Head} (htop : h.top = (s.head v).top)
    (hstatus : h.status = (s.head v).status) (u : Nat) : SameHead s (s.setHead v h) u := by
  rw [SameHead, head_setHead]
  split
  · next hu => exact ⟨hu.1 ▸ htop, hu.1 ▸ hstatus⟩
  · exact ⟨rfl, rfl⟩

theorem kept_remove {s : Stack} {n v : Nat} (hn : n ≤ v) (hcount : n ≤ s.count) :
    Kept n s (s.remove v) := by
  refine .of_vertices rfl ?_ fun w hw => ?_
  · rw [count_remove]
    split <;> omega
  · rw [SameHead, head_remove, if_pos (by omega)]
    exact ⟨rfl, rfl⟩

theorem kept_addHead (s : Stack) (h : Head) : Kept s.count s (s.addHead h) := by
  refine .of_vertices rfl (by simp) fun w hw => ?_
  rw [SameHead, head_addHead, if_neg (by omega)]
  exact ⟨rfl, rfl⟩

theorem replace_eq {s : Stack} {v target : Nat} (h : v ≠ target) :
    s.replace v target = (s.setHead target { s.head v with
      summary := (s.head v).summary.orElse fun _ => (s.head target).summary }).remove v := by
  rw [Stack.replace, if_neg h]

/-- Putting a later reading in the place of an earlier one. -/
theorem head_replace {s : Stack} {v target : Nat} (htarget : target < v) (hcount : target < s.count)
    (w : Nat) :
    ((s.replace v target).head w).top
        = (s.head (if w = target then v else if w < v then w else w + 1)).top
      ∧ ((s.replace v target).head w).status
        = (s.head (if w = target then v else if w < v then w else w + 1)).status := by
  rw [replace_eq (by omega), head_remove]
  by_cases hw : w = target
  · subst hw
    rw [if_pos htarget, head_setHead, if_pos ⟨rfl, hcount⟩, if_pos rfl]
    exact ⟨rfl, rfl⟩
  · by_cases hlow : w < v
    · rw [if_pos hlow, head_setHead, if_neg (by omega), if_neg hw, if_pos hlow]
      exact ⟨rfl, rfl⟩
    · rw [if_neg hlow, head_setHead, if_neg (by omega), if_neg hw, if_neg hlow]
      exact ⟨rfl, rfl⟩

theorem count_replace {s : Stack} {v target : Nat} (htarget : target ≠ v) (hv : v < s.count) :
    (s.replace v target).count = s.count - 1 := by
  rw [replace_eq (Ne.symm htarget), count_remove, count_setHead, if_pos hv]

theorem vertices_replace (s : Stack) (v target : Nat) :
    (s.replace v target).vertices = s.vertices := by
  rw [replace]
  split <;> rfl

/-! ## Pushing -/

theorem vertex_push (s : Stack) (lang : Language) (v i : Nat) (tree : Option Tree) (pending : Bool)
    (state : ParseState) :
    (s.push lang v tree pending state).vertex i
      = if i = s.vertices.size then above lang (s.head v).top (s.top v) tree pending state
        else s.vertex i := by
  rw [vertex, vertex, Array.getD_eq_getD_getElem?, Array.getD_eq_getD_getElem?, push]
  simp only [Array.getElem?_push]
  split <;> rfl

theorem spot_above (lang : Language) (below : Nat) (v : Vertex) (tree : Option Tree)
    (pending : Bool) (state : ParseState) :
    (above lang below v tree pending state).spot = v.spot.reach tree state := by
  cases tree <;> rfl

theorem links_above (lang : Language) (below : Nat) (v : Vertex) (tree : Option Tree)
    (pending : Bool) (state : ParseState) :
    (above lang below v tree pending state).links = [⟨below, tree, pending⟩] := by
  cases tree <;> rfl

@[simp] theorem count_push (s : Stack) (lang : Language) (v : Nat) (tree : Option Tree)
    (pending : Bool) (state : ParseState) : (s.push lang v tree pending state).count = s.count := by
  simp [count, push]

/-- A push concerns one reading only. -/
theorem sameHead_push (s : Stack) (lang : Language) {v w : Nat} (hw : w ≠ v) (tree : Option Tree)
    (pending : Bool) (state : ParseState) :
    SameHead s (s.push lang v tree pending state) w := by
  rw [SameHead, head_eq, head_eq, push]
  simp [Ne.symm hw]

theorem head_push (s : Stack) (lang : Language) {v : Nat} (hv : v < s.count) (tree : Option Tree)
    (pending : Bool) (state : ParseState) :
    ((s.push lang v tree pending state).head v).top = s.vertices.size
      ∧ ((s.push lang v tree pending state).head v).status = (s.head v).status := by
  rw [head_eq, push]
  simp only [count] at hv
  simp [hv]

theorem extends_push (s : Stack) (lang : Language) (v : Nat) (tree : Option Tree) (pending : Bool)
    (state : ParseState) : Extends s (s.push lang v tree pending state) where
  size := by simp [push]
  spots i hi := by rw [vertex_push, if_neg (by omega)]

theorem kept_push (s : Stack) (lang : Language) {n v : Nat} (hn : n ≤ v) (hcount : n ≤ s.count)
    (tree : Option Tree) (pending : Bool) (state : ParseState) :
    Kept n s (s.push lang v tree pending state) :=
  ⟨extends_push .., by simpa using hcount, fun _ hw => sameHead_push s lang (by omega) ..⟩

/-- After a push the reading stands where the subtree ends. -/
theorem spot_push (s : Stack) (lang : Language) {v : Nat} (hv : v < s.count) (tree : Option Tree)
    (pending : Bool) (state : ParseState) :
    (s.push lang v tree pending state).spot v = (s.spot v).reach tree state := by
  rw [spot, top, (head_push s lang hv tree pending state).1, vertex_push, if_pos rfl, spot_above]
  rfl

/-- The live vertices after a push. -/
def withTop (live : Nat → Prop) (s : Stack) (i : Nat) : Prop := live i ∨ i = s.vertices.size

/-- The new vertex is live if the law allows the step; the readings are another matter. -/
theorem SoundBut.push_vertex {but : Nat → Prop} {s : Stack} (hs : SoundBut L live but s)
    (lang : Language) {v : Nat} (hlive : live (s.head v).top) {tree : Option Tree} {pending : Bool}
    {state : ParseState} (hstep : L.step (s.spot v) tree ((s.spot v).reach tree state))
    (hpending : ∀ t, pending = true → tree = some t → L.divides t)
    (hheads : ∀ w, ¬but w → HeadSound L (withTop live s) (s.push lang v tree pending state)
      ((s.push lang v tree pending state).head w)) :
    SoundBut L (withTop live s) but (s.push lang v tree pending state) where
  bound i hi := by
    rcases hi with hi | rfl
    · exact Nat.lt_of_lt_of_le (hs.bound i hi) (extends_push ..).size
    · simp [push]
  origin := .inl hs.origin
  stands i hi := by
    rw [vertex_push]
    split
    · rw [spot_above]
      exact L.stands_of_step hstep
    · next hne => exact hs.stands i (hi.resolve_right hne)
  links i hi l hl := by
    have hspot : ∀ j, live j →
        ((s.push lang v tree pending state).vertex j).spot = (s.vertex j).spot := fun j hj =>
      (extends_push ..).spots j (hs.bound j hj)
    have hvertex := vertex_push s lang v i tree pending state
    rw [hvertex] at hl ⊢
    split at hl
    · next heq =>
      rw [links_above, List.mem_singleton] at hl
      subst hl
      rw [if_pos heq, spot_above, hspot _ hlive]
      exact ⟨.inl hlive, hstep, hpending⟩
    · next hne =>
      obtain ⟨hbelow, hlink, hdivides⟩ := hs.links i (hi.resolve_right hne) l hl
      rw [if_neg hne, hspot _ hbelow]
      exact ⟨.inl hbelow, hlink, hdivides⟩
  bottom i hi hnil := by
    rw [vertex_push] at hnil ⊢
    split at hnil
    · rw [links_above] at hnil
      simp at hnil
    · next hne =>
      rw [if_neg hne]
      exact hs.bottom i (hi.resolve_right hne) hnil
  heads := hheads

/-- A sound reading stays sound when vertices are added and live ones remain live. -/
theorem HeadSound.mono {live' : Nat → Prop} {s s' : Stack} {h : Head}
    (hs : HeadSound L live s h) (hlive : ∀ i, live i → live' i)
    (hspot : live h.top → (s'.vertex h.top).spot = (s.vertex h.top).spot) :
    HeadSound L live' s' h := by
  rw [HeadSound] at hs ⊢
  split at hs
  · exact hlive _ hs
  · have hposition : (s'.vertex h.top).position = (s.vertex h.top).position :=
      congrArg Spot.position (hspot hs.1)
    exact ⟨hlive _ hs.1, hposition ▸ hs.2⟩
  · trivial

/-- **Pushing what the law allows keeps a stack sound.** -/
theorem Sound.push {s : Stack} (hs : Sound L live s) (lang : Language) {v : Nat}
    (hv : (s.head v).status = .active) (tree : Option Tree) (pending : Bool) (state : ParseState)
    (hstep : L.step (s.spot v) tree ((s.spot v).reach tree state))
    (hpending : ∀ t, pending = true → tree = some t → L.divides t) :
    Sound L (withTop live s) (s.push lang v tree pending state) := by
  have hlive : live (s.head v).top := (hs.heads v id).top_live (by simp [hv])
  refine SoundBut.push_vertex hs lang hlive hstep hpending fun w _ => ?_
  by_cases hin : w = v ∧ v < s.count
  · obtain ⟨rfl, hcount⟩ := hin
    obtain ⟨htop, hstatus⟩ := head_push s lang hcount tree pending state
    exact headSound_active (hstatus.trans hv) (.inr htop)
  · have hsame : SameHead s (s.push lang v tree pending state) w := by
      by_cases hw : w = v
      · have hout : s.count ≤ w := by
          by_contra hlt
          exact hin ⟨hw, hw ▸ Nat.lt_of_not_le hlt⟩
        rw [SameHead, head_of_le hout, head_of_le (by simpa using hout)]
        exact ⟨rfl, rfl⟩
      · exact sameHead_push s lang hw tree pending state
    refine headSound_congr hsame.1 hsame.2 ((hs.heads w id).mono (fun i hi => .inl hi) ?_)
    exact fun htop => (extends_push ..).spots _ (hs.bound _ htop)

/-! ## Rejoining -/

/-- Only links and counts of vertices have changed. -/
structure Relinked (s s' : Stack) : Prop where
  heads : s'.heads = s.heads
  size : s'.vertices.size = s.vertices.size
  spots : ∀ i, (s'.vertex i).spot = (s.vertex i).spot

theorem Relinked.refl (s : Stack) : Relinked s s := ⟨rfl, rfl, fun _ => rfl⟩

theorem Relinked.trans {s s' s'' : Stack} (h : Relinked s s') (h' : Relinked s' s'') :
    Relinked s s'' where
  heads := h'.heads.trans h.heads
  size := h'.size.trans h.size
  spots i := (h'.spots i).trans (h.spots i)

theorem Relinked.head {s s' : Stack} (h : Relinked s s') (v : Nat) : s'.head v = s.head v := by
  rw [head_eq, head_eq, h.heads]

theorem Relinked.extends {s s' : Stack} (h : Relinked s s') : Extends s s' :=
  ⟨Nat.le_of_eq h.size.symm, fun i _ => h.spots i⟩

/-- A link that may be given to a vertex. -/
def LinkSound (L : Law) (live : Nat → Prop) (s : Stack) (i : Nat) (l : Link) : Prop :=
  live l.below ∧ L.step (s.vertex l.below).spot l.tree (s.vertex i).spot
    ∧ ∀ t, l.pending = true → l.tree = some t → L.divides t

theorem LinkSound.relinked {s s' : Stack} (h : Relinked s s') {i : Nat} {l : Link}
    (hl : LinkSound L live s i l) : LinkSound L live s' i l := by
  rw [LinkSound, h.spots, h.spots]
  exact hl

theorem vertex_appendLink (s : Stack) (lang : Language) (i j : Nat) (link : Link) :
    ((s.appendLink lang i link).vertex j).spot = (s.vertex j).spot
      ∧ ∀ l ∈ ((s.appendLink lang i link).vertex j).links,
        l ∈ (s.vertex j).links ∨ l = link ∧ j = i := by
  rw [appendLink]
  simp only
  by_cases hfull : (s.vertex i).links.length = maxLinks
  · rw [if_pos hfull]
    exact ⟨rfl, fun l hl => .inl hl⟩
  · rw [if_neg hfull, vertex, Array.getD_eq_getD_getElem?]
    simp only [Array.getElem?_setIfInBounds]
    by_cases hj : i = j
    · subst hj
      by_cases hi : i < s.vertices.size
      · simp only [hi, if_true, Option.getD_some]
        refine ⟨rfl, fun l hl => ?_⟩
        rcases List.mem_append.mp hl with hl | hl
        · exact .inl hl
        · exact .inr ⟨List.mem_singleton.mp hl, trivial⟩
      · simp only [hi, if_true, if_false, Option.getD_none]
        have hvertex : s.vertex i = default := by
          rw [vertex, Array.getD_eq_getD_getElem?, Array.getElem?_eq_none (Nat.le_of_not_lt hi)]
          rfl
        rw [hvertex]
        exact ⟨rfl, fun l hl => .inl hl⟩
    · rw [if_neg hj, vertex, Array.getD_eq_getD_getElem?]
      exact ⟨rfl, fun l hl => .inl hl⟩

theorem links_appendLink_ne_nil (s : Stack) (lang : Language) (i j : Nat) (link : Link)
    (h : ((s.appendLink lang i link).vertex j).links = []) : (s.vertex j).links = [] := by
  rw [appendLink] at h
  simp only at h
  by_cases hfull : (s.vertex i).links.length = maxLinks
  · rwa [if_pos hfull] at h
  · rw [if_neg hfull, vertex, Array.getD_eq_getD_getElem?] at h
    simp only [Array.getElem?_setIfInBounds] at h
    by_cases hj : i = j
    · subst hj
      by_cases hi : i < s.vertices.size
      · simp [hi] at h
      · rw [vertex, Array.getD_eq_getD_getElem?, Array.getElem?_eq_none (Nat.le_of_not_lt hi)]
        rfl
    · rw [if_neg hj] at h
      rwa [vertex, Array.getD_eq_getD_getElem?]

theorem relinked_appendLink (s : Stack) (lang : Language) (i : Nat) (link : Link) :
    Relinked s (s.appendLink lang i link) where
  heads := by
    rw [appendLink]
    simp only
    split <;> rfl
  size := by
    rw [appendLink]
    simp only
    split <;> simp
  spots j := (vertex_appendLink s lang i j link).1

theorem SoundBut.appendLink {but : Nat → Prop} {s : Stack} (hs : SoundBut L live but s)
    (lang : Language) {i : Nat} {link : Link} (hlink : LinkSound L live s i link) :
    SoundBut L live but (s.appendLink lang i link) := by
  have hsame := relinked_appendLink s lang i link
  refine {
    bound := fun j hj => by
      rw [hsame.size]
      exact hs.bound j hj
    origin := hs.origin
    stands := fun j hj => by
      rw [hsame.spots]
      exact hs.stands j hj
    links := fun j hj l hl => ?_
    bottom := fun j hj hnil => by
      rw [hsame.spots]
      exact hs.bottom j hj (links_appendLink_ne_nil s lang i j link hnil)
    heads := fun v hv => by
      rw [hsame.head]
      exact (hs.heads v hv).mono (fun _ h => h) fun _ => hsame.spots _ }
  rw [hsame.spots, hsame.spots]
  rcases (vertex_appendLink s lang i j link).2 l hl with hl | ⟨rfl, rfl⟩
  · exact hs.links j hj l hl
  · exact hlink

/-- Giving a vertex one link after the other. -/
theorem SoundBut.foldl {but : Nat → Prop} {f : Stack → Link → Stack} {i : Nat}
    (hf : ∀ {s l}, SoundBut L live but s → LinkSound L live s i l →
      SoundBut L live but (f s l) ∧ Relinked s (f s l)) (ls : List Link) :
    ∀ {s : Stack}, SoundBut L live but s → (∀ l ∈ ls, LinkSound L live s i l) →
      SoundBut L live but (ls.foldl f s) ∧ Relinked s (ls.foldl f s) := by
  induction ls with
  | nil => exact fun hs _ => ⟨hs, .refl _⟩
  | cons l ls ih =>
    intro s hs hls
    obtain ⟨hs', hsame⟩ := hf hs (hls l (List.mem_cons_self ..))
    obtain ⟨hs'', hsame'⟩ := ih hs' fun l hl => (hls l (List.mem_cons_of_mem _ hl)).relinked hsame
    exact ⟨hs'', hsame.trans hsame'⟩

/-- **Giving a vertex one more link that the law allows keeps a stack sound**, also when other
vertices are joined on that occasion. -/
theorem SoundBut.addLink {but : Nat → Prop} (lang : Language) (fuel : Nat) :
    ∀ {s : Stack}, SoundBut L live but s → ∀ {i : Nat}, live i → ∀ {link : Link},
      LinkSound L live s i link →
      SoundBut L live but (Stack.addLink lang fuel s i link)
        ∧ Relinked s (Stack.addLink lang fuel s i link) := by
  induction fuel with
  | zero => exact fun hs _ _ _ _ => ⟨hs, .refl _⟩
  | succ fuel ih =>
    intro s hs i hi link hlink
    rw [Stack.addLink]
    split
    · exact ⟨hs, .refl s⟩
    · simp only
      split
      · exact ⟨hs.appendLink lang hlink, relinked_appendLink s lang i link⟩
      · next e he =>
        split
        · exact ⟨hs, .refl s⟩
        · next hne =>
          -- `e` leads to a vertex that matches the one below the link: the two are joined
          have hmem := List.mem_of_find?_eq_some he
          have hcond := List.find?_some he
          simp only [Bool.and_eq_true, Bool.or_eq_true, beq_iff_eq, hne, false_or,
            Vertex.matches] at hcond
          obtain ⟨-, ⟨hstate, hbytes⟩, hcost⟩ := hcond
          obtain ⟨hlive, -, -⟩ := hs.links i hi e hmem
          have hlinks : ∀ l ∈ (s.vertex link.below).links, LinkSound L live s e.below l := by
            intro l hl
            obtain ⟨hbelow, hstep, hdivides⟩ := hs.links _ hlink.1 l hl
            exact ⟨hbelow, L.step_congr hstep (hs.stands _ hlive) hstate hbytes hcost, hdivides⟩
          exact SoundBut.foldl (fun hs hl => ih hs hlive hl) _ hs hlinks

/-- What joining the reading `w` into `v` leaves: the other readings, those behind `w` one place
further to the front. -/
structure Merged (w : Nat) (s s' : Stack) : Prop extends Extends s s' where
  count : s'.count = if w < s.count then s.count - 1 else s.count
  heads : ∀ u, (s'.head u).top = (s.head (if u < w then u else u + 1)).top
    ∧ (s'.head u).status = (s.head (if u < w then u else u + 1)).status

theorem Merged.kept {n w : Nat} {s s' : Stack} (h : Merged w s s') (hn : n ≤ w)
    (hcount : n ≤ s.count) : Kept n s s' := by
  refine ⟨h.toExtends, ?_, fun v hv => ?_⟩
  · rw [h.count]
    split <;> omega
  · have hhead := h.heads v
    rwa [if_pos (by omega)] at hhead

/-- Striking off a reading after links have been added. -/
theorem Relinked.merged {s s₁ : Stack} (h : Relinked s s₁) {v : Nat} {new : Head}
    (htop : new.top = (s₁.head v).top) (hstatus : new.status = (s₁.head v).status) (w : Nat) :
    Merged w s ((s₁.setHead v new).remove w) := by
  have hcount : s₁.count = s.count := by rw [count, count, h.heads]
  refine ⟨⟨h.extends.size, h.extends.spots⟩, ?_, fun u => ?_⟩
  · rw [count_remove, count_setHead, hcount]
  · have hsame := SameHead.of_setHead htop hstatus
    rw [head_remove]
    split
    · rw [(hsame u).1, (hsame u).2, h.head]
      exact ⟨rfl, rfl⟩
    · rw [(hsame (u + 1)).1, (hsame (u + 1)).2, h.head]
      exact ⟨rfl, rfl⟩

theorem merged_remove (s : Stack) (w : Nat) : Merged w s (s.remove w) := by
  refine ⟨Extends.of_vertices rfl, count_remove s w, fun u => ?_⟩
  rw [head_remove]
  split <;> exact ⟨rfl, rfl⟩

theorem status_of_isActive {s : Stack} {v : Nat} (h : s.isActive v = true) :
    (s.head v).status = .active := by
  rw [isActive] at h
  split at h
  · assumption
  · simp at h

/-- A vertex with the links of another one added. -/
def linkAll (s : Stack) (lang : Language) (i : Nat) (ls : List Link) : Stack :=
  ls.foldl (fun s l => addLink lang (s.vertices.size + 1) s i l) s

theorem merge?_eq_some {s s' : Stack} {lang : Language} {v w : Nat}
    (h : s.merge? lang v w = some s') :
    s.canMerge v w = true
      ∧ ∃ new : Head, new.top = ((s.linkAll lang (s.head v).top (s.top w).links).head v).top
        ∧ new.status = ((s.linkAll lang (s.head v).top (s.top w).links).head v).status
        ∧ s' = ((s.linkAll lang (s.head v).top (s.top w).links).setHead v new).remove w := by
  rw [merge?] at h
  split at h
  · next hmerge =>
    simp only [Option.some.injEq] at h
    unfold linkAll
    refine ⟨hmerge, _, ?_, ?_, h.symm⟩
    · split <;> rfl
    · split <;> rfl
  · simp at h

/-- **Joining two readings keeps a stack sound.** -/
theorem Sound.merge {s s' : Stack} (hs : Sound L live s) {lang : Language} {v w : Nat}
    (h : s.merge? lang v w = some s') : Sound L live s' ∧ Merged w s s' := by
  obtain ⟨hmerge, new, htop, hstatus, rfl⟩ := merge?_eq_some h
  simp only [canMerge, Bool.and_eq_true, Vertex.matches, beq_iff_eq] at hmerge
  obtain ⟨⟨hv, hw⟩, ⟨hstate, hbytes⟩, hcost⟩ := hmerge
  have hlivev := (hs.heads v id).top_live (by simp [status_of_isActive hv])
  have hlivew := (hs.heads w id).top_live (by simp [status_of_isActive hw])
  have hlinks : ∀ l ∈ (s.top w).links, LinkSound L live s (s.head v).top l := by
    intro l hl
    obtain ⟨hbelow, hstep, hdivides⟩ := hs.links _ hlivew l hl
    exact ⟨hbelow, L.step_congr hstep (hs.stands _ hlivev) hstate hbytes hcost, hdivides⟩
  obtain ⟨hs₁, hsame⟩ : Sound L live (s.linkAll lang (s.head v).top (s.top w).links)
      ∧ Relinked s (s.linkAll lang (s.head v).top (s.top w).links) :=
    SoundBut.foldl (fun hs hl => SoundBut.addLink lang _ hs hlivev hl) _ hs hlinks
  exact ⟨(hs₁.retitle v htop hstatus).remove w, hsame.merged htop hstatus w⟩

end Stack

end SyntaxKit
