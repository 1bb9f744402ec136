import SyntaxKit.Proofs.Diagnostics.Problems
import SyntaxKit.Proofs.Lexer.Token
import SyntaxKit.Proofs.Parse.Run
import SyntaxKit.Proofs.Tree.Edit
import SyntaxKit.Proofs.Tree.Marked

/-!
# What a stack holds

Everything that a parser puts on a stack is consistent: the summary of each branch says the truth
about its children.  Whatever stands beside the grammar is marked so, and keeps the state; and no
text is complete directly behind a token.  What stands for text that could not be read and costs nothing
yet, a token in error or a list of skipped text, is followed by the state of recovery and nothing else,
because that state leads nowhere.  And wherever a leaf begins or ends, the text may be cut, if that is so
for what is read from it.

`Tree.Held` says this of a subtree between two places, `Law.paid` as a law.  A parse with an earlier
tree at hand takes over nothing that an edit has marked, and what is not marked is consistent as it
was and aligned where it now begins (`Tree.Spare`).
-/

namespace SyntaxKit

namespace Tree

variable {lang : Language}

/-! ## Consistent trees -/

/-- What stands beside the grammar is never text to be paid for. -/
theorem Consistent.not_unpaid_of_isExtra {t : Tree} (h : t.Consistent lang)
    (hextra : t.isExtra = true) : ¬t.Unpaid := by
  cases h with
  | @token k root =>
    rintro (hskipped | ⟨herror, -⟩)
    · exact root.symbol hskipped
    · have hfalse := root.error herror
      simp [isExtra, hfalse] at hextra
  | @branch b cs root children =>
    rintro (hskipped | ⟨herror, hcost⟩)
    · have hfalse := (root.skipped hskipped).1
      simp [isExtra, hfalse] at hextra
    · have hpos := root.errors (Branch.holdsErrors_iff.mpr (.inl herror))
      have hzero : b.errorCost = 0 := hcost
      omega

theorem Consistent.of_mem {t c : Tree} (h : t.Consistent lang) (hc : c ∈ t.children) :
    c.Consistent lang := Every.of_mem h hc

/-- The children of a tree that is no text in error are no text to be paid for. -/
theorem Consistent.not_unpaid_of_mem {t c : Tree} (h : t.Consistent lang)
    (herror : t.symbol ≠ Symbol.error) (hskipped : t.symbol ≠ Symbol.skipped)
    (hc : c ∈ t.children) : ¬c.Unpaid := by
  cases h with
  | token root => simp [children] at hc
  | branch root children =>
    exact root.paid (Branch.holdsErrors_eq_false_iff.mpr ⟨herror, hskipped⟩) c hc

/-- The children of a node together are as long as the node. -/
theorem Consistent.totalSizes_children {t : Tree} (h : t.Consistent lang)
    (hnode : ∀ k, t ≠ .token k) : totalSizes t.children = t.totalSize := by
  cases h with
  | @token k root => exact absurd rfl (hnode k)
  | branch root children => exact root.fits.totalSize.symm

/-- A tree in error that pays for itself is a node. -/
theorem Consistent.totalSizes_children_of_paid {t : Tree} (h : t.Consistent lang)
    (hpaid : ¬t.Unpaid) (herror : t.symbol = Symbol.error) :
    totalSizes t.children = t.totalSize := by
  cases h with
  | @token k root =>
    refine absurd (.inr ⟨herror, ?_⟩) hpaid
    rw [errorCost, root.found herror]
    rfl
  | branch root children => exact root.fits.totalSize.symm

theorem Consistent.firstPart {t : Tree} (h : t.Consistent lang) (tooLarge : Tree → Bool) :
    (t.firstPart tooLarge).Consistent lang :=
  Every.firstPart h tooLarge

/-- The first part of a tree begins with the same token. -/
theorem Consistent.firstSymbol_firstPart {t : Tree} (h : t.Consistent lang)
    (tooLarge : Tree → Bool) : (t.firstPart tooLarge).firstSymbol = t.firstSymbol := by
  have hboth := firstPart_induction
    (P := fun u => u.Consistent lang ∧ u.firstSymbol = t.firstSymbol) ⟨h, rfl⟩
    (fun {b first rest} ⟨hu, hsymbol⟩ => by
      refine ⟨hu.of_mem (List.mem_cons_self ..), ?_⟩
      rw [← hsymbol]
      exact (hu.of_branch.first first rest rfl).symm) tooLarge
  exact hboth.2

theorem firstSymbol_of_isLeaf {t : Tree} (h : t.isLeaf = true) : t.firstSymbol = t.symbol := by
  rcases t with k | ⟨b, _ | ⟨first, rest⟩⟩
  · rfl
  · rfl
  · simp [isLeaf, children] at h

theorem symbol_settle (ambiguous : Bool) (state : ParseState) (t : Tree) :
    (Parse.settle ambiguous state t).symbol = t.symbol := by
  cases t with
  | token k => rfl
  | branch b cs => cases ambiguous <;> rfl

@[simp] theorem isExtra_settle (ambiguous : Bool) (state : ParseState) (t : Tree) :
    (Parse.settle ambiguous state t).isExtra = t.isExtra := by
  cases t with
  | token k => rfl
  | branch b cs => cases ambiguous <;> rfl

theorem settle_ofChildren_ne_token {generation : Nat} (ambiguous : Bool) (state : ParseState)
    (symbol : Symbol) (production : Nat) (children : List Tree) (k : Token) :
    Parse.settle ambiguous state (ofChildren lang generation symbol production children)
      ≠ .token k := by
  rw [ofChildren_eq]
  cases ambiguous <;> simp [Parse.settle]

/-- Marking a node as built in a state leaves it consistent. -/
theorem Consistent.settle {t : Tree} (h : t.Consistent lang) (ambiguous : Bool)
    (state : ParseState) : (Parse.settle ambiguous state t).Consistent lang := by
  cases h with
  | token root => exact .token root
  | branch root children =>
    cases ambiguous with
    | false => exact .branch (root.congr rfl rfl rfl rfl rfl rfl id fun _ => rfl) children
    | true =>
      exact .branch (root.congr rfl rfl rfl rfl rfl rfl (fun _ => rfl) fun _ => rfl) children

/-- Putting a token on a stack only marks it. -/
theorem shifted_token (extra : Bool) (k : Token) :
    (token k).shifted extra = token { k with extra } := by
  rw [shifted]
  split
  · rfl
  · next h =>
    have heq : extra = k.extra := by simpa [isLeaf, children, isExtra] using h
    rw [heq]

/-- A leaf that is marked as standing beside the grammar or in it, as its state asks. -/
theorem Consistent.shifted {t : Tree} (h : t.Consistent lang) (extra : Bool)
    (herror : t.symbol ≠ Symbol.error) (hskipped : t.symbol ≠ Symbol.skipped)
    (hend : t.symbol = Symbol.endOfText → extra = true) : (t.shifted extra).Consistent lang := by
  rw [Tree.shifted]
  split
  · exact h.setExtra (fun h => absurd h herror) hend hskipped
  · exact h

theorem symbol_shifted (extra : Bool) (t : Tree) : (t.shifted extra).symbol = t.symbol := by
  rw [Tree.shifted]
  split <;> simp

theorem Aligned.settle {t : Tree} {offset : Nat} {q : Nat → Extent × Extent → Prop} (h : t.Aligned q offset)
    (ambiguous : Bool) (state : ParseState) :
    (Parse.settle ambiguous state t).Aligned q offset := by
  rcases t with k | ⟨b, _ | ⟨c, cs⟩⟩
  · exact h
  · cases ambiguous <;> exact h
  · cases ambiguous <;> exact h

theorem Aligned.shifted {t : Tree} {offset : Nat} {q : Nat → Extent × Extent → Prop} (h : t.Aligned q offset)
    (extra : Bool) : (t.shifted extra).Aligned q offset := by
  rw [Tree.shifted]
  split
  · rwa [aligned_setExtra]
  · exact h

end Tree

/-! ## The law -/

/-- What a subtree leads to, unless it leads to recovery: what stands beside the grammar keeps the
state, text in error does stand beside it, and no text is complete directly behind a token. -/
structure Tree.Leads (lang : Language) (state : ParseState) (t : Tree) (next : ParseState) :
    Prop where
  extra : t.isExtra = true → next = state
  error : t.isError = true → t.isExtra = true
  token : t.isExtra = false → (∃ k, t = .token k) → ∀ token, .accept ∉ lang.actions next token

/-- A subtree as it is pushed at a place, with the state it leads to. -/
structure Tree.Held (lang : Language) (cut : Cutting) (a : Spot) (t : Tree)
    (next : ParseState) : Prop where
  consistent : t.Consistent lang
  aligned : t.Aligned cut.lies a.position.bytes
  marked : t.Marked lang
  unpaid : t.Unpaid → next = ParseState.recovering
  leads : next ≠ ParseState.recovering → t.Leads lang a.state next

/-- Trees on a stack are consistent and marked, text to be paid for is followed by the state of
recovery, and leaves begin and end where the text may be cut. -/
def Law.paid (lang : Language) (cut : Cutting) : Law where
  stands a := cut.cuts a.position
  step a t b := b.position.bytes = a.position.bytes + (t.map fun t => t.totalSize.bytes).getD 0
    ∧ cut.cuts b.position
    ∧ (a.state = ParseState.recovering → b.state = ParseState.recovering)
    ∧ (t = none → b.state = ParseState.recovering)
    ∧ (∀ u, t = some u → u.Held lang cut a b.state)
    ∧ b.cost = a.cost + (t.map Tree.errorCost).getD 0
  waits p t := t.Consistent lang ∧ t.Aligned cut.lies p.bytes ∧ t.symbol ≠ Symbol.skipped
    ∧ ((∀ k, t ≠ .token k) → t.Marked lang)
  faces _ _ := True
  tops _ := True
  divides t := t.isLeaf = false
  spare offset t := t.Spare lang cut.lies offset ∧ t.Marked lang
  whole t := t.Paid lang ∧ t.Aligned cut.lies 0 ∧ t.Marked lang
  stands_of_step h := h.2.1
  step_congr h hstands hstate hbytes hcost := by
    rw [hstate, hbytes, hcost]
    exact ⟨h.1, hstands, h.2.2⟩
  bytes_of_step h := h.1
  cost_of_step h := h.2.2.2.2.2
  waits_congr h _ hbytes := ⟨h.1, hbytes ▸ h.2.1, h.2.2⟩
  spare_children {offset t} h hne := by
    obtain ⟨htotal, hchildren⟩ := h.1.children hne
    refine ⟨htotal, Tree.eachAt_iff.mpr fun front c back hcs => ?_⟩
    exact ⟨Tree.eachAt_iff.mp hchildren front c back hcs, h.2.of_mem (by simp [hcs])⟩

namespace Law

variable {lang : Language} {env : Setting} {cut : Cutting}

/-! ### Steps -/

/-- A subtree may be pushed if it may be held where it leads. -/
theorem paid_step {a : Spot} {t : Tree} {state : ParseState} (ha : cut.cuts a.position)
    (ht : t.Held lang cut a state)
    (hstate : a.state = ParseState.recovering → state = ParseState.recovering) :
    (Law.paid lang cut).step a (some t) (a.reach (some t) state) := by
  refine ⟨rfl, ht.consistent.cuts_stop ha ht.aligned, hstate, by simp, fun u hu => ?_, rfl⟩
  obtain rfl : t = u := by simpa using hu
  exact ht

/-- What stands beside the grammar may be held in any state that it keeps. -/
theorem held_extra {a : Spot} {t : Tree} {state : ParseState} (ht : t.Consistent lang)
    (haligned : t.Aligned cut.lies a.position.bytes) (hmarked : t.Marked lang)
    (hextra : t.isExtra = true) (hstate : state ≠ ParseState.recovering → state = a.state) :
    t.Held lang cut a state where
  consistent := ht
  aligned := haligned
  marked := hmarked
  unpaid hunpaid := absurd hunpaid (ht.not_unpaid_of_isExtra hextra)
  leads hne := ⟨fun _ => hstate hne, fun _ => hextra, fun h => absurd (hextra.symm.trans h) (by simp)⟩

/-- A node in the grammar may be held in any state. -/
theorem held_node {a : Spot} {t : Tree} {state : ParseState} (ht : t.Consistent lang)
    (haligned : t.Aligned cut.lies a.position.bytes) (hmarked : t.Marked lang)
    (hextra : t.isExtra = false) (herror : t.symbol ≠ Symbol.error)
    (hskipped : t.symbol ≠ Symbol.skipped) (hnode : ∀ k, t ≠ .token k) :
    t.Held lang cut a state where
  consistent := ht
  aligned := haligned
  marked := hmarked
  unpaid hunpaid := hunpaid.elim (absurd · hskipped) fun h => absurd h.1 herror
  leads _ := {
    extra := fun h => absurd (h.symm.trans hextra) (by simp)
    error := fun h => absurd (by simpa [Tree.isError] using h) herror
    token := fun _ hk => hk.elim fun k hk => absurd hk (hnode k) }

/-- Anything may be held in the state of recovery. -/
theorem held_recovering {a : Spot} {t : Tree} (ht : t.Consistent lang)
    (haligned : t.Aligned cut.lies a.position.bytes) (hmarked : t.Marked lang) :
    t.Held lang cut a ParseState.recovering where
  consistent := ht
  aligned := haligned
  marked := hmarked
  unpaid _ := rfl
  leads h := absurd rfl h

/-- Extras may be pushed one after the other. -/
theorem paid_row {state : ParseState} (extras : List Tree) :
    ∀ {a : Spot}, cut.cuts a.position →
      (∀ e ∈ extras, e.Consistent lang ∧ e.Marked lang ∧ e.isExtra = true) →
      Tree.AlignedAll cut.lies a.position.bytes extras →
      (a.state = ParseState.recovering → state = ParseState.recovering) →
      (state ≠ ParseState.recovering → state = a.state) →
      (Law.paid lang cut).Row state a extras := by
  induction extras with
  | nil => exact fun _ _ _ _ _ => trivial
  | cons e rest ih =>
    intro a ha hextras haligned hstays hstate
    obtain ⟨he, hmarked, hextra⟩ := hextras e (List.mem_cons_self ..)
    obtain ⟨hfirst, hrest⟩ := (he.alignedAll_cons rest).mp haligned
    exact ⟨paid_step ha (held_extra he hfirst hmarked hextra hstate) hstays,
      ih (he.cuts_stop ha hfirst) (fun x hx => hextras x (List.mem_cons_of_mem _ hx)) hrest id
        fun _ => rfl⟩

/-! ### Chains -/

/-- What lies on a stack is held somewhere. -/
theorem Chain.held {a b : Spot} {ts : List Tree} {n : Nat}
    (h : (Law.paid lang cut).Chain a ts n b) {t : Tree} (ht : t ∈ ts) :
    ∃ a next, t.Held lang cut a next := by
  obtain ⟨a, b, -, -, -, -, hstep, -⟩ := h.step_of_mem ht
  exact ⟨a, b.state, hstep t rfl⟩

/-- What lies on a stack is consistent. -/
theorem Chain.consistent {a b : Spot} {ts : List Tree} {n : Nat}
    (h : (Law.paid lang cut).Chain a ts n b) : ∀ t ∈ ts, t.Consistent lang := by
  intro t ht
  obtain ⟨a, next, held⟩ := h.held ht
  exact held.consistent

/-- What lies on a stack is marked. -/
theorem Chain.marked {a b : Spot} {ts : List Tree} {n : Nat}
    (h : (Law.paid lang cut).Chain a ts n b) : ∀ t ∈ ts, t.Marked lang := by
  intro t ht
  obtain ⟨a, next, held⟩ := h.held ht
  exact held.marked

/-- What lies on a stack is aligned. -/
theorem Chain.aligned {a b : Spot} {ts : List Tree} {n : Nat}
    (h : (Law.paid lang cut).Chain a ts n b) : Tree.AlignedAll cut.lies a.position.bytes ts := by
  induction h with
  | nil a => exact Tree.alignedAll_nil
  | @mark a m b ts n first rest ih =>
    have hbytes : m.position.bytes = a.position.bytes := first.1
    exact hbytes ▸ ih
  | @tree a m b t ts n first rest ih =>
    obtain ⟨hbytes, -, -, -, hstep, -⟩ := first
    have held := hstep t rfl
    rw [held.consistent.alignedAll_cons]
    exact ⟨held.aligned, by rw [hbytes] at ih; exact ih⟩

/-- Children and the extras behind them are aligned where they are. -/
theorem Chain.aligned_append {a b : Spot} {children extras : List Tree} {n : Nat}
    (h : (Law.paid lang cut).Chain a (children ++ extras) n b) :
    Tree.AlignedAll cut.lies a.position.bytes children
      ∧ Tree.AlignedAll cut.lies (a.position.bytes + (Tree.totalSizes children).bytes) extras :=
  (Tree.alignedAll_append fun c hc => h.consistent c (List.mem_append_left _ hc)).mp h.aligned

/-- Recovery is never left by pushing. -/
theorem Chain.recovering {a b : Spot} {ts : List Tree} {n : Nat}
    (h : (Law.paid lang cut).Chain a ts n b) (ha : a.state = ParseState.recovering) :
    b.state = ParseState.recovering := by
  induction h with
  | nil a => exact ha
  | mark first rest ih => exact ih (first.2.2.1 ha)
  | tree first rest ih => exact ih (first.2.2.1 ha)

/-- Recovery has not begun between two places if the second is in another state. -/
theorem Chain.ne_recovering {a m b : Spot} {mark : Option Tree} {ts : List Tree} {n : Nat}
    (first : (Law.paid lang cut).step a mark m) (rest : (Law.paid lang cut).Chain m ts n b)
    (hb : b.state ≠ ParseState.recovering) : mark ≠ none ∧ m.state ≠ ParseState.recovering :=
  ⟨fun hmark => hb (rest.recovering (first.2.2.2.1 hmark)), fun hm => hb (rest.recovering hm)⟩

/-- Below a state other than that of recovery there is no text to be paid for. -/
theorem Chain.paid {a b : Spot} {ts : List Tree} {n : Nat}
    (h : (Law.paid lang cut).Chain a ts n b) (hb : b.state ≠ ParseState.recovering) :
    ∀ t ∈ ts, t.Paid lang := by
  induction h with
  | nil a => simp
  | mark first rest ih => exact ih hb
  | tree first rest ih =>
    intro t ht
    rcases List.mem_cons.mp ht with rfl | ht
    · have held := first.2.2.2.2.1 _ rfl
      exact ⟨held.consistent, fun h => (Chain.ne_recovering first rest hb).2 (held.unpaid h)⟩
    · exact ih hb t ht

/-- What stands beside the grammar keeps the state, unless recovery begins. -/
theorem Chain.state_eq {a b : Spot} {ts : List Tree} {n : Nat}
    (h : (Law.paid lang cut).Chain a ts n b) (hextra : ∀ t ∈ ts, t.isExtra = true)
    (hb : b.state ≠ ParseState.recovering) : b.state = a.state := by
  induction h with
  | nil a => rfl
  | mark first rest ih => exact absurd rfl (Chain.ne_recovering first rest hb).1
  | @tree a m b t ts n first rest ih =>
    have hleads := (first.2.2.2.2.1 t rfl).leads (Chain.ne_recovering first rest hb).2
    rw [ih (fun t ht => hextra t (List.mem_cons_of_mem _ ht)) hb,
      hleads.extra (hextra t (List.mem_cons_self ..))]

/-- Recovery has not begun between two places if the second is in another state. -/
theorem Chain.step_of_singleton {a m : Spot} {t : Tree} {n : Nat}
    (h : (Law.paid lang cut).Chain a [t] n m) (hm : m.state ≠ ParseState.recovering) :
    (Law.paid lang cut).step a (some t) m := by
  cases h with
  | mark first rest => exact absurd rfl (Chain.ne_recovering first rest hm).1
  | tree first rest =>
    cases rest with
    | nil => exact first
    | mark mark rest => exact absurd rfl (Chain.ne_recovering mark rest hm).1

/-- An error below a state that is gone back to keeps the state. -/
theorem Chain.state_eq_of_isError {a m : Spot} {e : Tree} {n : Nat}
    (h : (Law.paid lang cut).Chain a [e] n m) (hm : m.state ≠ ParseState.recovering)
    (herror : e.isError = true) : m.state = a.state := by
  have hleads := ((h.step_of_singleton hm).2.2.2.2.1 e rfl).leads hm
  exact hleads.extra (hleads.error herror)

end Law

end SyntaxKit
