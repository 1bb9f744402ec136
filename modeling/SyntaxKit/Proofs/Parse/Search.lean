import SyntaxKit.Proofs.Parse.Accept

/-!
# Searches through reductions keep to the law

When a reading is about to enter recovery, all reductions that some token allows are made on it, and
on the readings that arise from it.  This adds readings behind those that are there and may replace
the reading concerned by one that comes from it.  What has to be known of the others is that they are
where they were.

`Stack.Kept n` says that the first `n` readings are as before.  Where the reading concerned is one of
them and is replaced, what is left is `Stack.Steady n`: the first `n` readings have the status they
had and are as far on as they were, those not concerned are as before, and the readings behind them
go on.
-/

namespace SyntaxKit

namespace Stack

variable {L : Law} {live : Nat → Prop}

/-- The first `n` readings are as far on as they were and have the same status, and all of them but
one are where they were; the others go on. -/
structure Steady (n concerned : Nat) (s s' : Stack) : Prop extends Extends s s' where
  count : n ≤ s'.count
  heads : ∀ w < n, w ≠ concerned → SameHead s s' w
  status : ∀ w < n, (s'.head w).status = (s.head w).status
  bytes : ∀ w < n, (s.head w).status ≠ .halted →
    (s'.position w).bytes = (s.position w).bytes
  active : ∀ w, n ≤ w → (s'.head w).status = .active

theorem lt_of_not_active {s : Stack} {w : Nat} (h : (s.head w).status ≠ .active) :
    w < s.count := by
  by_contra hle
  exact h (active_of_le (Nat.le_of_not_lt hle))

variable {n concerned : Nat} {s s' s'' : Stack}

theorem Steady.refl (hcount : n ≤ s.count) (hactive : ∀ w, n ≤ w → (s.head w).status = .active) :
    Steady n concerned s s where
  toExtends := .refl s
  count := hcount
  heads _ _ _ := ⟨rfl, rfl⟩
  status _ _ := rfl
  bytes _ _ _ := rfl
  active := hactive

theorem Steady.trans (h : Steady n concerned s s') (h' : Steady n concerned s' s'') :
    Steady n concerned s s'' where
  toExtends := h.toExtends.trans h'.toExtends
  count := h'.count
  heads w hw hne := (h.heads w hw hne).trans (h'.heads w hw hne)
  status w hw := (h'.status w hw).trans (h.status w hw)
  bytes w hw hstatus :=
    (h'.bytes w hw (by rw [h.status w hw]; exact hstatus)).trans (h.bytes w hw hstatus)
  active := h'.active

/-- If the reading concerned is not among the first, then these are kept. -/
theorem Steady.kept (h : Steady n concerned s s') (hn : n ≤ concerned) : Kept n s s' :=
  ⟨h.toExtends, h.count, fun w hw => h.heads w hw (by omega)⟩

/-- Readings of a sound stack that are kept are steady. -/
theorem Kept.steady (h : Kept n s s') (hs : Sound L live s)
    (hactive : ∀ w, n ≤ w → (s'.head w).status = .active) : Steady n concerned s s' where
  toExtends := h.toExtends
  count := h.count
  heads w hw _ := h.heads w hw
  status w hw := (h.heads w hw).2
  bytes w hw hstatus := by
    have hspot := h.spot (h.heads w hw) (hs.bound _ ((hs.heads w id).top_live hstatus))
    exact congrArg (fun a => a.position.bytes) hspot
  active := hactive

/-- Where a reading that is kept stands. -/
theorem Kept.spot_eq (h : Kept n s s') (hs : Sound L live s) {w : Nat} (hw : w < n)
    (hstatus : (s.head w).status ≠ .halted) : s'.spot w = s.spot w :=
  h.spot (h.heads w hw) (hs.bound _ ((hs.heads w id).top_live hstatus))

/-- A later reading that is as far on has been put in the place of `v`. -/
theorem steady_replace {v new : Nat} (hv : v < new) (hnew : n ≤ new) (hin : new < s.count)
    (hvactive : (s.head v).status = .active)
    (hactive : ∀ w, n ≤ w → (s.head w).status = .active)
    (hbytes : (s.position new).bytes = (s.position v).bytes)
    (hconcerned : v < n → v = concerned) : Steady n concerned s (s.replace new v) := by
  have hhead := head_replace (s := s) hv (by omega : v < s.count)
  refine ⟨.of_vertices (vertices_replace ..), ?_, fun w hw hne => ?_, fun w hw => ?_,
    fun w hw _ => ?_, fun w hw => ?_⟩
  · rw [count_replace (by omega) hin]
    omega
  · have hw' := hhead w
    rwa [if_neg (fun h => hne (h.trans (hconcerned (h ▸ hw)))), if_pos (by omega)] at hw'
  · rw [(hhead w).2]
    split
    · next hwv => rw [hwv, hactive new hnew, hvactive]
    · rw [if_pos (by omega)]
  · have htop := (hhead w).1
    rw [position, top, htop, vertex, vertices_replace]
    split
    · next hwv =>
      rw [hwv]
      exact hbytes
    · rw [if_pos (by omega)]
      rfl
  · rw [(hhead w).2]
    split
    · exact hactive new hnew
    · split
      · exact hactive w hw
      · exact hactive (w + 1) (by omega)

end Stack

namespace Parse

variable {L : Law} {env : Setting} {p : Parse}

/-! ## Reductions that some token allows -/

theorem mem_addReduction {rs : List Reduction} {r x : Reduction} (h : x ∈ addReduction rs r) :
    x ∈ rs ∨ x = r := by
  rw [addReduction] at h
  split at h
  · exact .inl h
  · simpa using h

theorem mem_collectActions {acc : List Reduction × Bool} {a : Action} {x : Reduction}
    (h : x ∈ (collectActions acc a).1) : x ∈ acc.1 ∨ a = .reduce x.symbol x.count x.production := by
  cases a with
  | reduce symbol count production =>
    rw [collectActions] at h
    split at h
    · rcases mem_addReduction h with h | rfl
      · exact .inl h
      · exact .inr rfl
    · exact .inl h
  | _ => exact .inl h

/-- Every reduction that is collected is what the state does on some token. -/
theorem mem_reductionsOn {lang : Language} {state : ParseState} {tokens : List Symbol}
    {r : Reduction} (h : r ∈ (reductionsOn lang state tokens).1) :
    ∃ tok, .reduce r.symbol r.count r.production ∈ lang.actions state tok := by
  have hactions : ∀ (as : List Action) (acc : List Reduction × Bool),
      r ∈ (as.foldl collectActions acc).1 →
        r ∈ acc.1 ∨ .reduce r.symbol r.count r.production ∈ as := by
    intro as
    induction as with
    | nil => exact fun acc h => .inl h
    | cons a as ih =>
      intro acc h
      rcases ih _ h with h | h
      · rcases mem_collectActions h with h | rfl
        · exact .inl h
        · exact .inr (List.mem_cons_self ..)
      · exact .inr (List.mem_cons_of_mem _ h)
  have htokens : ∀ (ts : List Symbol) (acc : List Reduction × Bool),
      r ∈ (ts.foldl (fun acc token => (lang.actions state token).foldl collectActions acc) acc).1 →
        r ∈ acc.1 ∨ ∃ tok, .reduce r.symbol r.count r.production ∈ lang.actions state tok := by
    intro ts
    induction ts with
    | nil => exact fun acc h => .inl h
    | cons t ts ih =>
      intro acc h
      rcases ih _ h with h | h
      · rcases hactions _ _ h with h | h
        · exact .inl h
        · exact .inr ⟨t, h⟩
      · exact .inr h
  rcases htokens tokens _ h with h | h
  · simp at h
  · exact h

section Reduced

variable {ends : Spot → Prop} {p' p'' : Parse}

theorem Reduced.refl (h : p.Sound L) : Reduced L ends p p where
  sound := h
  kept := .refl (Nat.le_refl _)
  active _ hw := Stack.active_of_le hw
  ends _ hn hw := by omega

theorem Reduced.trans (h : Reduced L ends p p') (h' : Reduced L ends p' p'') :
    Reduced L ends p p'' := by
  obtain ⟨live', hs'⟩ := h.sound.stack
  refine ⟨h'.sound, h.kept.trans (h'.kept.mono h.kept.count), fun w hw => ?_, fun w hn hw => ?_⟩
  · by_cases hlt : w < p'.stack.count
    · rw [(h'.kept.heads w hlt).2]
      exact h.active w hw
    · exact h'.active w (Nat.le_of_not_lt hlt)
  · by_cases hlt : w < p'.stack.count
    · rw [h'.kept.spot_eq hs' hlt (by simp [h.active w hn])]
      exact h.ends w hn hlt
    · exact h'.ends w (Nat.le_of_not_lt hlt) hw

theorem Reduced.mono {ends' : Spot → Prop} (h : Reduced L ends p p')
    (hends : ∀ c, ends c → ends' c) : Reduced L ends' p p' :=
  ⟨h.sound, h.kept, h.active, fun w hn hw => hends _ (h.ends w hn hw)⟩

end Reduced

/-- Where readings stand that go on after reductions: as far on as before, and where they may if that
was so before. -/
def Onward (L : Law) (b c : Spot) : Prop :=
  c.position.bytes = b.position.bytes ∧ (L.tops b → L.tops c)

/-- Making several reductions on the same reading. -/
theorem reduceEach_spec (hL : L.Reducing env) {v : Nat} {b : Spot} (rs : List Reduction) :
    ∀ {p : Parse} (last : Option Nat), p.Sound L → v < p.stack.count →
      (p.stack.head v).status ≠ .halted → p.stack.spot v = b →
      (∀ r ∈ rs, ∃ tok,
        .reduce r.symbol r.count r.production ∈ env.lang.actions b.state tok) →
      (last = none ∨ rs ≠ [] → ∀ w, (reduceEach env v rs p last).2 = some w →
        p.stack.count ≤ w ∧ w < (reduceEach env v rs p last).1.stack.count)
        ∧ Reduced L (Onward L b) p (reduceEach env v rs p last).1 := by
  induction rs with
  | nil =>
    intro p last hp _ _ _ _
    refine ⟨fun hlast w hw => ?_, .refl hp⟩
    rw [hlast.resolve_right (by simp)] at hw
    simp [reduceEach] at hw
  | cons r rs ih =>
    intro p last hp hv hstatus hb hrs
    obtain ⟨tok, hr⟩ := hrs r (List.mem_cons_self ..)
    obtain ⟨hreduced, hnew⟩ := hp.reduce hstatus (r := r)
      (hb ▸ hL.reduces (hb ▸ hp.stands hstatus) hr) true
    have hreduced : Reduced L (Onward L b) p (p.reduce env v r true).1 :=
      hreduced.mono fun c hc => by
        rw [hb] at hc
        exact ⟨hc.bytes, hL.lands hr hc⟩
    obtain ⟨live, hs⟩ := hp.stack
    obtain ⟨hlast, hrest⟩ := ih (p := (p.reduce env v r true).1)
      (p.reduce env v r true).2 hreduced.sound
      (Nat.lt_of_lt_of_le hv hreduced.kept.count)
      (by rw [(hreduced.kept.heads v hv).2]; exact hstatus)
      ((hreduced.kept.spot_eq hs hv hstatus).trans hb)
      fun r' hr' => hrs r' (List.mem_cons_of_mem _ hr')
    rw [reduceEach]
    refine ⟨fun _ w hw => ?_, hreduced.trans hrest⟩
    cases rs with
    | nil =>
      obtain ⟨rfl, hlt⟩ := hnew w hw
      exact ⟨Nat.le_refl _, hlt⟩
    | cons r' rs' =>
      obtain ⟨hlow, hhigh⟩ := hlast (.inr (by simp)) w hw
      exact ⟨Nat.le_trans hreduced.kept.count hlow, hhigh⟩

theorem mergeInto?_spec {v j : Nat} {p' : Parse} (hp : p.Sound L)
    (h : p.mergeInto? env v j = some p') :
    p'.Sound L ∧ Stack.Merged v p.stack p'.stack ∧ j ≤ v := by
  rw [mergeInto?] at h
  obtain ⟨i, hi, hmerge⟩ := List.exists_of_findSome?_eq_some h
  obtain ⟨stack, hstack, rfl⟩ := Option.map_eq_some_iff.mp hmerge
  obtain ⟨live, hs⟩ := hp.stack
  obtain ⟨hs', hmerged⟩ := hs.merge hstack
  refine ⟨hp.withStack ⟨live, hs'⟩, hmerged, ?_⟩
  rw [List.mem_range'_1] at hi
  omega

/-- What a step of a search through reductions begins with: the readings from `n` on go on, and so
does the one that is looked at, which is one of those unless it is the one the search is about; all of
them stand where they may. -/
structure Searching (L : Law) (n origin v : Nat) (p : Parse) : Prop where
  sound : p.Sound L
  count : n ≤ p.stack.count
  active : ∀ w, n ≤ w → (p.stack.head w).status = .active
  placed : ∀ w, n ≤ w ∨ w = origin → w < p.stack.count → L.tops (p.stack.spot w)
  going : (p.stack.head origin).status = .active
  here : n ≤ v ∨ v = origin

theorem Searching.status {n origin v : Nat} (h : Searching L n origin v p) :
    (p.stack.head v).status = .active :=
  h.here.elim (h.active v) fun hv => hv ▸ h.going

/-- Going on with another reading. -/
theorem Searching.at {n origin v w : Nat} (h : Searching L n origin v p) (hw : n ≤ w) :
    Searching L n origin w p := { h with here := .inl hw }

/-- Making all reductions on the reading that is looked at. -/
theorem Searching.reduceEach (hL : L.Reducing env) {n origin v : Nat}
    (h : Searching L n origin v p) (tokens : List Symbol) (hv : v < p.stack.count) :
    let rs := (reductionsOn env.lang (p.stack.state v) tokens).1
    Reduced L (Onward L (p.stack.spot v)) p (reduceEach env v rs p none).1
      ∧ Searching L n origin v (reduceEach env v rs p none).1
      ∧ Stack.Steady n origin p.stack (reduceEach env v rs p none).1.stack
      ∧ ∀ new, (reduceEach env v rs p none).2 = some new →
        p.stack.count ≤ new ∧ new < (reduceEach env v rs p none).1.stack.count := by
  intro rs
  obtain ⟨live, hs⟩ := h.sound.stack
  obtain ⟨hlast, hreduced⟩ := reduceEach_spec hL rs none h.sound hv (by simp [h.status]) rfl
    fun r hr => mem_reductionsOn hr
  -- a reading that was there before is as it was
  have hold : ∀ w < p.stack.count,
      ((Parse.reduceEach env v rs p none).1.stack.head w).status = (p.stack.head w).status :=
    fun w hw => (hreduced.kept.heads w hw).2
  have hactive : ∀ w, n ≤ w →
      ((Parse.reduceEach env v rs p none).1.stack.head w).status = .active := by
    intro w hw
    by_cases hlt : w < p.stack.count
    · exact (hold w hlt).trans (h.active w hw)
    · exact hreduced.active w (Nat.le_of_not_lt hlt)
  refine ⟨hreduced, {
    sound := hreduced.sound
    count := Nat.le_trans h.count hreduced.kept.count
    active := hactive
    placed := fun w hw hlt => ?_
    going := ?_
    here := h.here }, (hreduced.kept.mono h.count).steady hs hactive, hlast (.inl rfl)⟩
  · by_cases hin : w < p.stack.count
    · have hstatus : (p.stack.head w).status = .active :=
        hw.elim (h.active w) fun heq => heq ▸ h.going
      rw [hreduced.kept.spot_eq hs hin (by simp [hstatus])]
      exact h.placed w hw hin
    · exact (hreduced.ends w (Nat.le_of_not_lt hin) hlt).2 (h.placed v h.here hv)
  · by_cases hin : origin < p.stack.count
    · exact (hold origin hin).trans h.going
    · exact hreduced.active origin (Nat.le_of_not_lt hin)

/-- The last reading that came out is put in the place of the one it comes from. -/
theorem Searching.replace {n origin v : Nat} (h : Searching L n origin v p) (new : Nat)
    (hv : v < new)
    (hn : n ≤ new) (hin : new < p.stack.count)
    (hbytes : (p.stack.position new).bytes = (p.stack.position v).bytes) :
    Searching L n origin v (p.onStack (·.replace new v))
      ∧ Stack.Steady n origin p.stack (p.onStack (·.replace new v)).stack := by
  obtain ⟨live, hs⟩ := h.sound.stack
  have hsteady : Stack.Steady n origin p.stack (p.stack.replace new v) :=
    Stack.steady_replace hv hn hin h.status h.active hbytes fun hlt =>
      h.here.elim (fun hle => absurd hlt (Nat.not_lt.mpr hle)) id
  have hhead := Stack.head_replace (s := p.stack) hv (Nat.lt_trans hv hin)
  -- the readings are those that were there before, in other places
  have hspot : ∀ w u, ((p.stack.replace new v).head w).top = (p.stack.head u).top →
      (p.stack.replace new v).spot w = p.stack.spot u := by
    intro w u htop
    rw [Stack.spot, Stack.spot, Stack.top, Stack.top, htop, Stack.vertex, Stack.vertices_replace,
      ← Stack.vertex]
  refine ⟨{
    sound := h.sound.onStack ⟨live, hs.replace new v⟩
    count := hsteady.count
    active := hsteady.active
    placed := fun w hw hlt => ?_
    going := ?_
    here := h.here }, hsteady⟩
  · have htop := (hhead w).1
    have hcount : (p.stack.replace new v).count = p.stack.count - 1 :=
      Stack.count_replace (by omega) hin
    change w < (p.stack.replace new v).count at hlt
    show L.tops ((p.stack.replace new v).spot w)
    split at htop
    · rw [hspot w new htop]
      exact h.placed new (.inl hn) hin
    · split at htop
      · rw [hspot w w htop]
        exact h.placed w hw (by omega)
      · rw [hspot w (w + 1) htop]
        exact h.placed (w + 1) (.inl (by omega)) (by omega)
  · show ((p.stack.replace new v).head origin).status = .active
    by_cases ho : origin < n
    · exact (hsteady.status origin ho).trans h.going
    · exact hsteady.active origin (Nat.le_of_not_lt ho)

/-- The reading `w` is gone, and the others are as they were. -/
theorem Searching.merged {n origin v w next : Nat} {p' : Parse} (h : Searching L n origin v p)
    (hp' : p'.Sound L) (hmerged : Stack.Merged w p.stack p'.stack) (hw : n ≤ w)
    (hnext : n ≤ next) :
    Searching L n origin next p' ∧ Stack.Steady n origin p.stack p'.stack := by
  obtain ⟨live, hs⟩ := h.sound.stack
  have hkept := hmerged.kept hw h.count
  have hactive : ∀ u, n ≤ u → (p'.stack.head u).status = .active := by
    intro u hu
    rw [(hmerged.heads u).2]
    split <;> exact h.active _ (by omega)
  refine ⟨{
    sound := hp'
    count := hkept.count
    active := hactive
    placed := fun u hu hlt => ?_
    going := ?_
    here := .inl hnext }, hkept.steady hs hactive⟩
  · by_cases hun : n ≤ u
    · exact Stack.Placed.merged (fun x hx hlt _ => h.placed x (.inl hx) hlt) hs hmerged u hun hlt
        (by simp [hactive u hun])
    · have hstatus : (p.stack.head u).status = .active := hu.resolve_left hun ▸ h.going
      rw [hkept.spot_eq hs (Nat.lt_of_not_le hun) (by simp [hstatus])]
      exact h.placed u hu (Nat.lt_of_lt_of_le (Nat.lt_of_not_le hun) h.count)
  · by_cases ho : origin < n
    · exact (hkept.heads origin ho).2.trans h.going
    · exact hactive origin (Nat.le_of_not_lt ho)

/-- **A search through reductions keeps to the law** and leaves the first `n` readings as far on as
they were, if the readings that it strikes off are behind them. -/
theorem reduceAllLoop_spec (hL : L.Reducing env) {tokens : List Symbol} {particular : Bool}
    {origin first n : Nat} (hfirst : n ≤ first) (hparticular : particular = true → n ≤ origin)
    (fuel : Nat) :
    ∀ (round : Nat) {v : Nat} {p : Parse} (can : Bool), Searching L n origin v p →
      (∃ w, Searching L n origin w
          (reduceAllLoop env tokens particular origin first fuel round v p can).1)
        ∧ Stack.Steady n origin p.stack
          (reduceAllLoop env tokens particular origin first fuel round v p can).1.stack := by
  induction fuel with
  | zero => exact fun _ v _ _ h => ⟨⟨v, h⟩, .refl h.count h.active⟩
  | succ fuel ih =>
    intro round v p can h
    -- whatever is done in one step is followed by the rest of the search
    have hgo : ∀ {p' : Parse} {round w : Nat} {can : Bool}, Searching L n origin w p' →
        Stack.Steady n origin p.stack p'.stack →
        (∃ w', Searching L n origin w'
            (reduceAllLoop env tokens particular origin first fuel round w p' can).1)
          ∧ Stack.Steady n origin p.stack
            (reduceAllLoop env tokens particular origin first fuel round w p' can).1.stack := by
      intro p' round w can hp' hsteady
      obtain ⟨hsearching, hsteady'⟩ := ih round can hp'
      exact ⟨hsearching, hsteady.trans hsteady'⟩
    rw [reduceAllLoop]
    simp only
    split
    · exact ⟨⟨v, h⟩, .refl h.count h.active⟩
    · next hv =>
      have hv : v < p.stack.count := Nat.lt_of_not_le hv
      split
      · next p' hmerge =>
        obtain ⟨hp', hmerged, hle⟩ := mergeInto?_spec h.sound hmerge
        obtain ⟨hsearching, hsteady⟩ := h.merged hp' hmerged (by omega) (Nat.le_trans hfirst hle)
        exact hgo hsearching hsteady
      · obtain ⟨hreduced, hsearching, hsteady, hlast⟩ := h.reduceEach hL tokens hv
        cases hreductions : reductionsOn env.lang (p.stack.state v) tokens with
        | mk rs shifts =>
          rw [hreductions] at hreduced hsearching hsteady hlast
          cases heach : Parse.reduceEach env v rs p none with
          | mk p₁ last =>
            rw [heach] at hreduced hsearching hsteady hlast
            simp only at hreduced hsearching hsteady hlast ⊢
            have hnext : n ≤ if v = origin then p.stack.count else v + 1 := by
              split
              · exact h.count
              · next hne => exact h.here.elim (by omega) fun hh => absurd hh hne
            split
            · exact hgo (hsearching.at hnext) hsteady
            · split
              · next new _ =>
                obtain ⟨hlow, hhigh⟩ := hlast new rfl
                obtain ⟨live, hs⟩ := h.sound.stack
                have hposition : p₁.stack.position v = p.stack.position v :=
                  congrArg Spot.position (hreduced.kept.spot_eq hs hv (by simp [h.status]))
                obtain ⟨hsearching', hsteady'⟩ := hsearching.replace new (by omega)
                  (Nat.le_trans h.count hlow) hhigh
                  (by rw [hposition]; exact (hreduced.ends new hlow hhigh).1)
                exact hgo hsearching' (hsteady.trans hsteady')
              · by_cases hpart : particular = true
                · have hv' : n ≤ v := h.here.elim id fun hh => hh ▸ hparticular hpart
                  obtain ⟨live, hs⟩ := hsearching.sound.stack
                  have hremoved : (p₁.onStack (·.remove v)).Sound L :=
                    hsearching.sound.onStack ⟨live, hs.remove v⟩
                  obtain ⟨hsearching', hsteady'⟩ :=
                    hsearching.merged hremoved (Stack.merged_remove p₁.stack v) hv' hnext
                  rw [if_pos hpart]
                  exact hgo hsearching' (hsteady.trans hsteady')
                · rw [if_neg hpart]
                  exact hgo (hsearching.at hnext) hsteady

/-- Making all reductions that any token allows leaves every reading as far on as it was, and what
goes on where it may. -/
theorem Sound.reduceOnAny (hL : L.Reducing env) (h : p.Sound L) {v : Nat}
    (hv : (p.stack.head v).status = .active) (htops : L.tops (p.stack.spot v)) :
    (p.reduceOnAny env v).Sound L
      ∧ Stack.Steady p.stack.count v p.stack (p.reduceOnAny env v).stack
      ∧ ∀ w, p.stack.count ≤ w ∨ w = v → w < (p.reduceOnAny env v).stack.count →
        L.tops ((p.reduceOnAny env v).stack.spot w) := by
  have hsearching : Searching L p.stack.count v v p := {
    sound := h
    count := Nat.le_refl _
    active := fun _ hw => Stack.active_of_le hw
    placed := fun w hw hlt => hw.elim (fun hle => absurd hlt (Nat.not_lt.mpr hle))
      fun heq => heq ▸ htops
    going := hv
    here := .inr rfl }
  have hdone : (∃ w, Searching L p.stack.count v w (p.reduceOnAny env v))
      ∧ Stack.Steady p.stack.count v p.stack (p.reduceOnAny env v).stack :=
    reduceAllLoop_spec hL (Nat.le_refl _) (by simp) _ _ _ hsearching
  obtain ⟨⟨w, hw⟩, hsteady⟩ := hdone
  exact ⟨hw.sound, hsteady, hw.placed⟩

/-- Making all reductions that a lookahead allows leaves the readings before `v` as they were, if
those from `v` on are to go on. -/
theorem Sound.reduceOn (hL : L.Reducing env) (h : p.Sound L) {v : Nat} (hv : v ≤ p.stack.count)
    (hactive : ∀ w, v ≤ w → (p.stack.head w).status = .active) (hplaced : p.stack.Placed L v)
    (lookahead : Symbol) :
    (p.reduceOn env v lookahead).1.Sound L
      ∧ Stack.Steady v v p.stack (p.reduceOn env v lookahead).1.stack
      ∧ (p.reduceOn env v lookahead).1.stack.Placed L v := by
  have hsearching : Searching L v v v p := {
    sound := h
    count := hv
    active := hactive
    placed := fun w hw hlt => by
      have hle : v ≤ w := by omega
      exact hplaced w hle hlt (by simp [hactive w hle])
    going := hactive v (Nat.le_refl v)
    here := .inr rfl }
  have hdone : (∃ w, Searching L v v w (p.reduceOn env v lookahead).1)
      ∧ Stack.Steady v v p.stack (p.reduceOn env v lookahead).1.stack := by
    rw [Parse.reduceOn]
    split
    · exact reduceAllLoop_spec hL hv (fun _ => Nat.le_refl v) _ _ _ hsearching
    · exact reduceAllLoop_spec hL hv (fun _ => Nat.le_refl v) _ _ _ hsearching
  obtain ⟨⟨w, hw⟩, hsteady⟩ := hdone
  exact ⟨hw.sound, hsteady, fun u hu hlt _ => hw.placed u (.inl hu) hlt⟩

end Parse

end SyntaxKit
