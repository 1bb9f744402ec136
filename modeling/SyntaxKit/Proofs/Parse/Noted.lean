import SyntaxKit.Proofs.Parse.Charged

/-!
# The states that are noted for going back

When a reading first enters recovery, nothing on its stack costs anything, and the states to which it
may go back are noted.  One that stands further back in the text is at least two steps down, one over
the mark and one over a subtree of the grammar, so whoever goes back to it wraps that subtree and pays
for it (`Stack.paysFor_summarize`).
-/

namespace SyntaxKit

namespace Stack

variable {live : Nat → Prop}

/-! ## What is gathered on the way -/

section Walk

variable {σ : Type} {s : Stack} {judge : σ → Path → σ × Verdict} {I : σ → Prop}
  {P : σ → Path → Prop}

/-- Something is known of what has been gathered, and, given that, of each path. -/
structure Gathers (s : Stack) (judge : σ → Path → σ × Verdict) (I : σ → Prop)
    (P : σ → Path → Prop) : Prop where
  judged : ∀ {st p}, I st → P st p → I (judge st p).1
  later : ∀ {st p q}, I st → P st p → P st q → P (judge st p).1 q
  follow : ∀ {st p}, I st → P st p → (judge st p).2.stop = false →
    ∀ link ∈ (s.vertex p.vertex).links, P (judge st p).1 (p.follow link)

theorem Gathers.advancePaths (h : Gathers s judge I P) (paths : List Path) :
    ∀ (st : σ) (kept added taken : List Path), I st → (∀ p ∈ paths, P st p) →
      (∀ p ∈ kept, P st p) → (∀ p ∈ added, P st p) →
      I (s.advancePaths judge paths st kept added taken).1
        ∧ ∀ p ∈ (s.advancePaths judge paths st kept added taken).2.1,
          P (s.advancePaths judge paths st kept added taken).1 p := by
  induction paths with
  | nil =>
    intro st kept added taken hst _ hkept hadded
    refine ⟨hst, fun p hp => ?_⟩
    rcases List.mem_append.mp hp with hp | hp
    · exact hkept p (List.mem_reverse.mp hp)
    · exact hadded p (List.mem_reverse.mp hp)
  | cons p rest ih =>
    intro st kept added taken hst hpaths hkept hadded
    have hp := hpaths p (List.mem_cons_self ..)
    have hst' := h.judged hst hp
    have hfollow := h.follow hst hp
    have hlater : ∀ {q}, P st q → P (judge st p).1 q := fun hq => h.later hst hp hq
    rw [Stack.advancePaths]
    cases hjudge : judge st p with
    | mk st' verdict =>
      obtain ⟨take, stop⟩ := verdict
      rw [hjudge] at hst' hfollow hlater
      have hrest : ∀ q ∈ rest, P st' q := fun q hq => hlater (hpaths q (List.mem_cons_of_mem _ hq))
      cases hlinks : (s.vertex p.vertex).links with
      | nil =>
        exact ih st' kept added _ hst' hrest (fun q hq => hlater (hkept q hq))
          fun q hq => hlater (hadded q hq)
      | cons first others =>
        cases stop with
        | true =>
          exact ih st' kept added _ hst' hrest (fun q hq => hlater (hkept q hq))
            fun q hq => hlater (hadded q hq)
        | false =>
          replace hfollow := hfollow rfl
          rw [hlinks] at hfollow
          refine ih st' _ _ _ hst' hrest (fun q hq => ?_) fun q hq => ?_
          · rcases List.mem_cons.mp hq with rfl | hq
            · exact hfollow first (List.mem_cons_self ..)
            · exact hlater (hkept q hq)
          · rcases List.mem_append.mp hq with hq | hq
            · obtain ⟨link, hmem, rfl⟩ := List.mem_map.mp (List.mem_reverse.mp hq)
              exact hfollow link (List.mem_cons_of_mem _ (List.mem_of_mem_take hmem))
            · exact hlater (hadded q hq)

theorem Gathers.walk (h : Gathers s judge I P) (fuel : Nat) :
    ∀ (st : σ) (paths taken : List Path), I st → (∀ p ∈ paths, P st p) →
      I (s.walk judge fuel st paths taken).1 := by
  induction fuel with
  | zero => exact fun _ _ _ hst _ => hst
  | succ fuel ih =>
    intro st paths taken hst hpaths
    cases paths with
    | nil => exact hst
    | cons p rest =>
      obtain ⟨hst', hpaths'⟩ :=
        h.advancePaths (p :: rest) st [] [] taken hst hpaths (by simp) (by simp)
      exact ih _ _ _ hst' hpaths'

theorem Gathers.walkFrom (h : Gathers s judge I P) {v : Nat} {st : σ} (hst : I st)
    (hstart : P st ⟨(s.head v).top, [], 0, true⟩) : I (s.walkFrom v judge st).1 :=
  h.walk _ _ _ _ hst (by simpa using hstart)

end Walk

end Stack

namespace Law

variable {lang : Language} {g : Grammar.Listed} {text : List Char} {keeps : Tree → Prop}
  {tops : Spot → Prop}

/-- What leads to a state of recovery for nothing: nothing if it begins there, and otherwise the mark
and what is below it, of which the subtrees that stand in the grammar are counted. -/
theorem Chain.count_of_free {a b : Spot} {ts : List Tree} {n : Nat}
    (h : (Law.charged lang g text keeps tops).Chain a ts n b) (hcost : b.cost = 0)
    (hb : b.state = ParseState.recovering) :
    a.state = ParseState.recovering ∧ ts = [] ∧ n = 0
      ∨ a.state ≠ ParseState.recovering ∧ n = (ts.countP fun t => !t.isExtra) + 1 := by
  induction h with
  | nil a => exact .inl ⟨hb, rfl, rfl⟩
  | @mark a m b ts n first rest ih =>
    have hm := (rest.cost_eq_zero hcost).1
    have hstate : m.state = ParseState.recovering := first.1.1.1.1.2.2.2.1 rfl
    rcases ih hcost hb with ⟨-, rfl, rfl⟩ | ⟨hne, -⟩
    · exact .inr ⟨first.2.1 rfl hm, rfl⟩
    · exact absurd hstate hne
  | @tree a m b t ts n first rest ih =>
    have hm := (first.2.2 t rfl).1 (rest.cost_eq_zero hcost).1
    have ha : a.state ≠ ParseState.recovering := fun ha => hm (first.1.1.1.1.2.2.1 ha)
    rcases ih hcost hb with ⟨hstate, -⟩ | ⟨-, hcount⟩
    · exact absurd hstate hm
    · refine .inr ⟨ha, ?_⟩
      cases hextra : t.isExtra <;> simp [hextra, hcount]

end Law

namespace Stack

variable {lang : Language} {g : Grammar.Listed} {text : List Char} {keeps : Tree → Prop}
  {tops : Spot → Prop} {live : Nat → Prop} {s : Stack} {b : Spot}

/-! ## What is noted -/

/-- What has been noted so far: the state of recovery itself, and behind it only what is further
down; what has been noted at a depth of one is as far on in the text, or a state of recovery. -/
def Noting (b : Spot) (entries : List SummaryEntry) : Prop :=
  entries = [] ∨ ∃ front e, entries = front ++ [e] ∧ e.depth = 0
    ∧ e.state = ParseState.recovering ∧ ∀ x ∈ front, 1 ≤ x.depth
      ∧ (x.position.bytes = b.position.bytes ∨ 2 ≤ x.depth)

/-- Whether a state has been noted for the depth of a path. -/
def Noted (s : Stack) (entries : List SummaryEntry) (p : Path) : Prop :=
  ∃ e ∈ entries, e.depth = p.count ∧ e.state = (s.vertex p.vertex).state

/-- What is known of a path on which states are noted: it has passed what the law says, something has
been noted if it has begun, and if it has passed nothing but the mark and what stands beside the
grammar, its state has been noted before. -/
structure Noter (L : Law) (live : Nat → Prop) (s : Stack) (b : Spot) (entries : List SummaryEntry)
    (p : Path) : Prop where
  sound : PathSound L live s b p
  begun : 1 ≤ p.count → entries ≠ []
  noted : p.count = 1 → p.trees = [] ∨ Noted s entries p

/-- How `summarize` judges a path. -/
def note (s : Stack) (maxDepth : Nat) (entries : List SummaryEntry) (p : Path) :
    List SummaryEntry × Verdict :=
  if maxDepth < p.count then (entries, ⟨false, true⟩)
  else
    let vertex := s.vertex p.vertex
    let known := (entries.takeWhile fun e => p.count ≤ e.depth).any fun e =>
      e.depth == p.count && e.state == vertex.state
    if known then (entries, ⟨false, false⟩)
    else (⟨vertex.position, p.count, vertex.state⟩ :: entries, ⟨false, false⟩)

theorem summarize_eq (s : Stack) (v maxDepth : Nat) :
    s.summarize v maxDepth = (s.walkFrom v (s.note maxDepth) []).1.reverse := rfl

/-- Noting only adds, and what has been looked at is noted afterwards. -/
theorem note_spec (s : Stack) (maxDepth : Nat) (entries : List SummaryEntry) (p : Path) :
    ((s.note maxDepth entries p).1 = entries
        ∧ ((s.note maxDepth entries p).2.stop = false → Noted s entries p))
      ∨ ((s.note maxDepth entries p).1
          = ⟨(s.vertex p.vertex).position, p.count, (s.vertex p.vertex).state⟩ :: entries
        ∧ ∀ e ∈ entries.takeWhile fun e => p.count ≤ e.depth, e.depth = p.count →
          e.state ≠ (s.vertex p.vertex).state) := by
  rw [note]
  split
  · exact .inl ⟨rfl, fun h => absurd h (by simp)⟩
  · simp only
    split
    · next hknown =>
      obtain ⟨e, he, hsame⟩ := List.any_eq_true.mp hknown
      simp only [Bool.and_eq_true, beq_iff_eq] at hsame
      exact .inl ⟨rfl, fun _ => ⟨e, (List.takeWhile_sublist _).subset he, hsame⟩⟩
    · next hknown =>
      refine .inr ⟨rfl, fun e he hdepth hstate => hknown ?_⟩
      exact List.any_eq_true.mpr ⟨e, he, by simp [hdepth, hstate]⟩

theorem noted_mono {maxDepth : Nat} {entries : List SummaryEntry} {p q : Path}
    (h : Noted s entries q) : Noted s (s.note maxDepth entries p).1 q := by
  obtain ⟨e, he, hsame⟩ := h
  refine ⟨e, ?_, hsame⟩
  rcases note_spec s maxDepth entries p with ⟨heq, -⟩ | ⟨heq, -⟩
  · rwa [heq]
  · rw [heq]
    exact List.mem_cons_of_mem _ he

theorem noted_note {maxDepth : Nat} {entries : List SummaryEntry} {p : Path}
    (hstop : (s.note maxDepth entries p).2.stop = false) :
    Noted s (s.note maxDepth entries p).1 p := by
  rcases note_spec s maxDepth entries p with ⟨heq, hnoted⟩ | ⟨heq, -⟩
  · rw [heq]
    exact hnoted hstop
  · rw [heq]
    exact ⟨_, List.mem_cons_self .., rfl, rfl⟩

/-- What is noted at a depth that is known is nothing new. -/
theorem Noting.note {maxDepth : Nat} {entries : List SummaryEntry} {p : Path}
    (h : Noting b entries) (hcost : b.cost = 0) (hb : b.state = ParseState.recovering)
    (hp : Noter (Law.charged lang g text keeps tops) live s b entries p) :
    Noting b (s.note maxDepth entries p).1 := by
  rcases note_spec s maxDepth entries p with ⟨heq, -⟩ | ⟨heq, hnew⟩
  · rwa [heq]
  · rw [heq]
    have hchain := hp.sound.2
    rcases h with rfl | ⟨front, e, rfl, hdepth, hstate, hfront⟩
    · -- the first to be noted is the state of recovery itself
      have hzero : p.count = 0 := by
        by_contra hpos
        exact hp.begun (Nat.pos_of_ne_zero hpos) rfl
      rcases hchain.count_of_free hcost hb with ⟨hrecovering, -⟩ | ⟨-, hcount⟩
      · exact .inr ⟨[], _, rfl, hzero, hrecovering, by simp⟩
      · omega
    · refine .inr ⟨_ :: front, e, rfl, hdepth, hstate, List.forall_mem_cons.mpr ⟨?_, hfront⟩⟩
      rcases hchain.count_of_free hcost hb with ⟨hrecovering, -, hzero⟩ | ⟨-, hcount⟩
      · -- this has been noted before
        refine absurd (hstate.trans hrecovering.symm) (hnew e ?_ (hdepth.trans hzero.symm))
        rw [List.takeWhile_eq_self_iff.mpr (by simp [hzero])]
        simp
      · refine ⟨by show 1 ≤ p.count; omega, ?_⟩
        by_cases hone : p.count = 1
        · rcases hp.noted hone with hnil | ⟨x, hx, hdepth', hstate'⟩
          · -- nothing but the mark has been passed
            have hbytes := hchain.bytes
            rw [hnil] at hbytes
            exact .inl hbytes.symm
          · refine absurd hstate' (hnew x ?_ hdepth')
            have hx : x ∈ front := by
              rcases List.mem_append.mp hx with hx | hx
              · exact hx
              · rw [List.mem_singleton.mp hx] at hdepth'
                omega
            rw [List.takeWhile_append_of_pos fun y hy => by simpa [hone] using (hfront y hy).1]
            exact List.mem_append_left _ hx
        · exact .inr (by show 2 ≤ p.count; omega)

/-- What is known of a path is known of it also when it is followed over one more link. -/
theorem Noter.follow {maxDepth : Nat} {entries : List SummaryEntry} {p : Path}
    (hs : Sound (Law.charged lang g text keeps tops) live s) (hcost : b.cost = 0)
    (hb : b.state = ParseState.recovering)
    (hp : Noter (Law.charged lang g text keeps tops) live s b entries p)
    (hstop : (s.note maxDepth entries p).2.stop = false) {link : Link}
    (hlink : link ∈ (s.vertex p.vertex).links) :
    Noter (Law.charged lang g text keeps tops) live s b (s.note maxDepth entries p).1
      (p.follow link) := by
  have hnoted := noted_note hstop
  refine ⟨hs.follow hp.sound hlink, fun _ hnil => ?_, fun hone => ?_⟩
  · obtain ⟨e, he, -⟩ := hnoted
    simp [hnil] at he
  · obtain ⟨-, hstep, -⟩ := hs.links _ hp.sound.1 link hlink
    have hchain := hp.sound.2
    have hfree := (hchain.cost_eq_zero hcost).1
    rw [Path.follow] at hone ⊢
    cases htree : link.tree with
    | none =>
      rw [htree] at hone
      rcases hchain.count_of_free hcost hb with ⟨-, hnil, -⟩ | ⟨-, hcount⟩
      · exact .inl hnil
      · simp only at hone
        omega
    | some t =>
      rw [htree] at hone hstep
      have hne := (hstep.2.2 t rfl).1 hfree
      cases hextra : t.isExtra with
      | true =>
        -- what stands beside the grammar keeps the state
        simp only [hextra, if_true] at hone ⊢
        obtain ⟨e, he, hdepth, hstate⟩ := hnoted
        have hkeeps := ((hstep.1.1.1.1.2.2.2.2.1 t rfl).leads hne).extra hextra
        exact .inr ⟨e, he, hdepth, hstate.trans hkeeps⟩
      | false =>
        simp only [hextra] at hone
        rcases hchain.count_of_free hcost hb with ⟨hrecovering, -⟩ | ⟨-, hcount⟩
        · exact absurd hrecovering hne
        · simp at hone
          omega

/-- **Whoever first goes back to an earlier state pays for it.** -/
theorem paysFor_summarize (hs : Sound (Law.charged lang g text keeps tops) live s) {v : Nat}
    (hv : (s.head v).status ≠ .halted) (hcost : (s.spot v).cost = 0)
    (hstate : (s.spot v).state = ParseState.recovering) (maxDepth : Nat) :
    Parse.PaysFor (Law.charged lang g text keeps tops) (s.spot v) (s.summarize v maxDepth) := by
  have hgathers : Gathers s (s.note maxDepth) (Noting (s.spot v))
      (Noter (Law.charged lang g text keeps tops) live s (s.spot v)) := {
    judged := fun h hp => h.note hcost hstate hp
    later := fun {entries p q} _ _ hq => by
      refine ⟨hq.sound, fun hone hnil => hq.begun hone ?_, fun hone =>
        (hq.noted hone).imp_right noted_mono⟩
      rcases note_spec s maxDepth entries p with ⟨heq, -⟩ | ⟨heq, -⟩
      · rwa [heq] at hnil
      · simp [heq] at hnil
    follow := fun _ hp hstop link hlink => hp.follow hs hcost hstate hstop hlink }
  have hnoting : Noting (s.spot v) (s.walkFrom v (s.note maxDepth) []).1 :=
    hgathers.walkFrom (.inl rfl) ⟨.start hs hv, by simp, by simp⟩
  intro e he hne hbytes
  rw [summarize_eq, List.mem_reverse] at he
  have hdepth : 2 ≤ e.depth := by
    rcases hnoting with hnil | ⟨front, e₀, heq, -, hstate₀, hfront⟩
    · simp [hnil] at he
    · rw [heq] at he
      rcases List.mem_append.mp he with he | he
      · exact (hfront e he).2.resolve_left hbytes
      · rw [List.mem_singleton.mp he] at hne
        exact absurd hstate₀ hne
  have hpays : ∀ n, 2 ≤ n → (Law.charged lang g text keeps tops).Pays (s.spot v) n := by
    intro n hn m trees hchain
    rcases hchain.count_of_free hcost hstate with ⟨-, -, hzero⟩ | ⟨-, hcount⟩
    · omega
    · obtain ⟨t, ht, hextra⟩ := List.countP_pos_iff.mp
        (show 0 < trees.countP fun t => !t.isExtra by omega)
      exact .inr ⟨t, ht, by simpa using hextra⟩
  exact ⟨hpays _ hdepth, hpays _ (by omega)⟩

end Stack

end SyntaxKit
