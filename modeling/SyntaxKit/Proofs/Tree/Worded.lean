import SyntaxKit.Proofs.Tree.Consistent
import SyntaxKit.Proofs.Tree.Derived

/-!
# Trees whose visible nodes follow their rules

In a derived tree the children of every visible node are a word of its rule, when the invisible
nodes among them are gone through (`Tree.Worded`).  Balancing moves the nodes of a list about, so
that a list need no longer be derived; but it leaves what is shown of the list as it was
(`Tree.SameLetters`), and so balancing keeps the visible nodes in order (`Tree.Worded.balance`).
-/

namespace SyntaxKit

open Grammar

variable {lang : Language} {g : Listed}

/-- Literals are visible. -/
theorem Language.isVisible_of_literal {s : Symbol} {text : String}
    (h : lang.kindOf s = .literal text) : lang.isVisible s = true := by
  rw [Language.kindOf] at h
  rw [Language.isVisible]
  cases hvisibility : lang.visibility s with
  | named => rfl
  | literal => rfl
  | hidden => simp [hvisibility] at h
  | auxiliary =>
    rw [hvisibility] at h
    simp only at h
    split at h <;> simp at h

/-- No branch stands beside the grammar, lists give no fields, and what is shown below a branch that
shows is a word of its rule; where this is a choice of literals, the branch has nothing but one visible
token below it. -/
structure Branch.Worded (lang : Language) (g : Listed) (b : Branch) (cs : List Tree) : Prop where
  bound : lang.tokenCount ≤ b.symbol ∧ b.symbol < lang.symbols.size
  grammar : b.extra = false
  list : lang.visibility b.symbol = .auxiliary → lang.productions.getD b.production [] = []
  word : lang.isVisible b.symbol = true → ∃ r, g.rule? (lang.kindOf b.symbol) = some r
    ∧ Word g.visible none r (Tree.lettersOf lang lang.isVisible none b.production cs 0)
  single : lang.isVisible b.symbol = true → lang.kindOf b.symbol ≠ .rule g.start →
    ∀ r, g.rule? (lang.kindOf b.symbol) = some r → r.isLiteral = true →
      ∃ c, cs = [c] ∧ lang.isVisible c.symbol = true ∧ c.symbol < lang.tokenCount

/-- The tokens of a tree are derived, and what is shown below its branches follows the rules. -/
def Tree.Worded (lang : Language) (g : Listed) (t : Tree) : Prop :=
  t.Every (Token.Derived lang g) (Branch.Worded lang g)

namespace Tree

/-- **A derived tree follows the rules.** -/
theorem Derived.worded (hcuts : Cuts lang g lang.isVisible g.visible)
    (hlists : ∀ s < lang.symbols.size, lang.tokenCount ≤ s → lang.visibility s = .auxiliary →
      g.list? (lang.kindOf s) ≠ none) {t : Tree} (h : t.Derived lang g) : t.Worded lang g := by
  induction h with
  | token root => exact .token root
  | @branch b cs root children ih =>
    have hmeaning : lang.isVisible b.symbol = true →
        g.meaning? (lang.kindOf b.symbol) = g.rule? (lang.kindOf b.symbol) := by
      intro hvisible
      have hend : b.symbol ≠ Symbol.endOfText := by
        have hlow := Nat.le_trans hcuts.bound.1 root.bound.1
        intro hend
        rw [hend] at hlow
        exact absurd hlow (by decide)
      rw [Listed.meaning?, (hcuts.keeps _ root.bound.2 hend hvisible).2]
    refine .branch ⟨root.bound, root.grammar, fun haux => ?_, fun hvisible => ?_,
      fun hvisible hstart r hr hliteral => ?_⟩ ih
    · exact root.list (hlists _ root.bound.2 root.bound.1 haux)
    · obtain ⟨r, hr, hword⟩ := Derived.word hcuts (.branch root children) b cs rfl
      exact ⟨r, hmeaning hvisible ▸ hr, hword⟩
    · obtain ⟨r', hr', hword⟩ := root.word
      obtain rfl : r = r' := by
        rw [hmeaning hvisible, hr] at hr'
        exact Option.some.inj hr'
      obtain ⟨text, hletter⟩ := hword.of_isLiteral (fun _ => rfl) hliteral
      obtain ⟨x, hx, hkind⟩ := List.map_eq_singleton_iff.mp hletter
      obtain rfl := (root.trimmed hstart).eq_singleton hx
      have hliteral : lang.kindOf x.1.symbol = .literal text := congrArg Letter.kind hkind
      refine ⟨x.1, rfl, Language.isVisible_of_literal hliteral, ?_⟩
      have hx := children x.1 (List.mem_cons_self ..)
      cases htree : x.1 with
      | token k => exact (Every.of_token (htree ▸ hx)).bound
      | branch b' cs' =>
        -- literals have no rule
        obtain ⟨r'', hr'', -⟩ := (Every.of_branch (htree ▸ hx)).word
        rw [htree, symbol] at hliteral
        rw [hliteral] at hr''
        simp [Listed.meaning?, Listed.list?, Grammar.rule?] at hr''

/-! ## Trees that show the same -/

variable (lang) in
/-- A parent cannot tell one tree from the other by what they are and what they show. -/
structure SameLetters (t u : Tree) : Prop where
  symbol : u.symbol = t.symbol
  extra : u.isExtra = t.isExtra
  letters : ∀ f, u.letters lang lang.isVisible f = t.letters lang lang.isVisible f

theorem SameLetters.refl (t : Tree) : SameLetters lang t t := ⟨rfl, rfl, fun _ => rfl⟩

theorem SameLetters.trans {t u v : Tree} (h : SameLetters lang t u) (h' : SameLetters lang u v) :
    SameLetters lang t v :=
  ⟨h'.symbol.trans h.symbol, h'.extra.trans h.extra,
    fun f => (h'.letters f).trans (h.letters f)⟩

theorem lettersOf_congr {cs ds : List Tree} (h : List.Forall₂ (SameLetters lang) cs ds)
    (f : Option String) (production index : Nat) :
    lettersOf lang lang.isVisible f production ds index
      = lettersOf lang lang.isVisible f production cs index := by
  induction h generalizing index with
  | nil => rfl
  | cons hc _ ih => rw [lettersOf_cons, lettersOf_cons, hc.extra, hc.letters, ih, ih]

theorem sameLetters_branch {b b' : Branch} {cs ds : List Tree} (hb : Branch.SameRoot b b')
    (h : List.Forall₂ (SameLetters lang) cs ds) :
    SameLetters lang (branch b cs) (branch b' ds) := by
  refine ⟨hb.symbol, hb.extra, fun f => ?_⟩
  rw [letters_branch, letters_branch, hb.symbol, hb.production, lettersOf_congr h]

theorem sameLetters_self (cs : List Tree) : List.Forall₂ (SameLetters lang) cs cs :=
  List.forall₂_same.mpr fun c _ => .refl c

theorem sameLetters_resummarize (t : Tree) : SameLetters lang t (t.resummarize lang) := by
  cases t with
  | token k => exact .refl _
  | branch b cs =>
    exact sameLetters_branch (Branch.sameRoot_summarize lang b cs) (sameLetters_self cs)

/-- Children that show the same make no difference to a branch. -/
theorem Worded.congr {b b' : Branch} {cs ds : List Tree} (h : (branch b cs).Worded lang g)
    (hb : Branch.SameRoot b b') (hsame : List.Forall₂ (SameLetters lang) cs ds)
    (hds : ∀ d ∈ ds, d.Worded lang g) : (branch b' ds).Worded lang g := by
  have root := Every.of_branch h
  refine .branch ⟨hb.symbol ▸ root.bound, hb.extra.trans root.grammar, ?_, ?_, ?_⟩ hds
  · rw [hb.symbol, hb.production]
    exact root.list
  · rw [hb.symbol, hb.production, lettersOf_congr hsame]
    exact root.word
  · rw [hb.symbol]
    intro hvisible hstart r hr hliteral
    obtain ⟨c, rfl, hc⟩ := root.single hvisible hstart r hr hliteral
    obtain ⟨d, ds, hd, hnil, rfl⟩ := List.forall₂_cons_left_iff.mp hsame
    obtain rfl := List.forall₂_nil_left_iff.mp hnil
    exact ⟨d, rfl, hd.symbol ▸ hc⟩

theorem Worded.resummarize {t : Tree} (h : t.Worded lang g) :
    (t.resummarize lang).Worded lang g := by
  cases t with
  | token k => exact h
  | branch b cs =>
    exact h.congr (Branch.sameRoot_summarize lang b cs) (sameLetters_self cs)
      fun c hc => Every.of_mem h hc

theorem Worded.resummarizeLast {t : Tree} (h : t.Worded lang g) :
    (resummarizeLast lang t).Worded lang g ∧ SameLetters lang t (resummarizeLast lang t) := by
  rcases resummarizeLast_cases lang t with heq | ⟨b, front, last, rfl, hlast⟩
  · rw [heq]
    exact ⟨h, .refl _⟩
  · have hsame : List.Forall₂ (SameLetters lang) (front ++ [last])
        (front ++ [last.resummarize lang]) :=
      List.rel_append (sameLetters_self front) (.cons (sameLetters_resummarize last) .nil)
    have hroot : Branch.SameRoot b b := by constructor <;> simp
    have hall : ∀ d ∈ front ++ [last.resummarize lang], d.Worded lang g := by
      intro d hd
      rcases List.mem_append.mp hd with hd | hd
      · exact Every.of_mem h (List.mem_append_left _ hd)
      · rw [List.mem_singleton] at hd
        exact hd ▸ Worded.resummarize (Every.of_mem h (List.mem_append_right _ (by simp)))
    rw [hlast]
    exact ⟨(h.congr hroot hsame hall).resummarize,
      (sameLetters_branch hroot hsame).trans (sameLetters_resummarize _)⟩

/-! ## Balancing -/

/-- Where a production gives no fields, it does not matter where its children stand in it. -/
theorem lettersOf_of_fieldless {production : Nat} (h : lang.productions.getD production [] = [])
    (f : Option String) (cs : List Tree) (index : Nat) :
    lettersOf lang lang.isVisible f production cs index
      = (cs.filter fun c => !c.isExtra).flatMap (letters lang lang.isVisible f) := by
  have hfield : ∀ index, lang.fieldOf? production index = none := by
    intro index
    rw [Language.fieldOf?, h]
    rfl
  induction cs generalizing index with
  | nil => rfl
  | cons c cs ih =>
    rw [lettersOf_cons, ih, ih, hfield]
    cases hextra : c.isExtra <;> simp [hextra]

/-- What a list shows is what its parts show. -/
theorem letters_list {b : Branch} {cs : List Tree} (h : b.Worded lang g cs)
    (haux : lang.visibility b.symbol = .auxiliary) (f : Option String) :
    (branch b cs).letters lang lang.isVisible f
      = (cs.filter fun c => !c.isExtra).flatMap (letters lang lang.isVisible f) := by
  have hvisible : lang.isVisible b.symbol = false := by rw [Language.isVisible, haux]
  rw [letters_branch, if_neg (by simp [hvisible]), lettersOf_of_fieldless (h.list haux)]

/-- A list follows the rules if its parts do. -/
theorem Worded.relist {b : Branch} {cs ds : List Tree} (h : (Tree.branch b cs).Worded lang g)
    (haux : lang.visibility b.symbol = .auxiliary) (hds : ∀ d ∈ ds, d.Worded lang g) :
    (Tree.branch b ds).Worded lang g := by
  have root := Every.of_branch h
  have hinvisible : lang.isVisible b.symbol = false := by rw [Language.isVisible, haux]
  exact .branch ⟨root.bound, root.grammar, root.list,
    fun hvisible => absurd (hvisible.symm.trans hinvisible) (by simp),
    fun hvisible => absurd (hvisible.symm.trans hinvisible) (by simp)⟩ hds

/-- **Turning a list changes nothing of what it shows.** -/
theorem worded_of_rotated {t u : Tree} (h : Rotated lang t u) :
    t.Worded lang g → lang.visibility t.symbol = .auxiliary →
      u.Worded lang g ∧ SameLetters lang t u := by
  induction h with
  | stay t => exact fun ht _ => ⟨ht, .refl t⟩
  | @turn b c g' others cOthers gs last u hchild hgrandchild hbelow ih =>
    intro ht haux
    rw [symbol] at haux
    have hcAux : lang.visibility c.symbol = .auxiliary := hchild ▸ haux
    have hgAux : lang.visibility g'.symbol = .auxiliary := hgrandchild ▸ haux
    have hc := Every.of_mem ht (List.mem_cons_self ..)
    have hg := Every.of_mem hc (List.mem_cons_self ..)
    have hlast : last.Worded lang g := Every.of_mem hg (List.mem_append_right _ (by simp))
    have hcOthers : ∀ d ∈ cOthers, d.Worded lang g :=
      fun d hd => Every.of_mem hc (List.mem_cons_of_mem _ hd)
    -- the child goes down to be the last child of the grandchild
    have hdown : (Tree.branch c (last :: cOthers)).Worded lang g :=
      Worded.relist hc hcAux (List.forall_mem_cons.mpr ⟨hlast, hcOthers⟩)
    have hup : (Tree.branch g' (gs ++ [Tree.branch c (last :: cOthers)])).Worded lang g := by
      refine Worded.relist hg hgAux (List.forall_mem_append.mpr ⟨fun d hd => ?_, ?_⟩)
      · exact Every.of_mem hg (List.mem_append_left _ hd)
      · simpa using hdown
    obtain ⟨hu, hsame⟩ := ih hup hgAux
    obtain ⟨hu', hsame'⟩ := hu.resummarizeLast
    have hturned : SameLetters lang (Tree.branch c (Tree.branch g' (gs ++ [last]) :: cOthers))
        (Tree.branch g' (gs ++ [Tree.branch c (last :: cOthers)])) := by
      have hcExtra := (Every.of_branch hc).grammar
      have hgExtra := (Every.of_branch hg).grammar
      refine ⟨hgrandchild.trans hchild.symm, hgExtra.trans hcExtra.symm, fun f => ?_⟩
      rw [letters_list (Every.of_branch hup) hgAux, letters_list (Every.of_branch hc) hcAux]
      rw [List.filter_append, List.filter_cons_of_pos (by simp [isExtra, hcExtra]),
        List.filter_cons_of_pos (by simp [isExtra, hgExtra]), List.flatMap_append,
        List.flatMap_cons, List.flatMap_cons, letters_list (Every.of_branch hdown) hcAux,
        letters_list (Every.of_branch hg) hgAux, List.filter_append, List.flatMap_append]
      cases hlastExtra : last.isExtra <;> simp [hlastExtra]
    have hall : List.Forall₂ (SameLetters lang)
        (Tree.branch c (Tree.branch g' (gs ++ [last]) :: cOthers) :: others)
        (resummarizeLast lang u :: others) :=
      .cons (hturned.trans (hsame.trans hsame')) (sameLetters_self others)
    have hroot : Branch.SameRoot b b := by constructor <;> simp
    have hout := ht.congr hroot hall (List.forall_mem_cons.mpr
      ⟨hu', fun d hd => Every.of_mem ht (List.mem_cons_of_mem _ hd)⟩)
    exact ⟨hout.resummarize, (sameLetters_branch hroot hall).trans (sameLetters_resummarize _)⟩

theorem Worded.balanceRoot {t : Tree} (h : t.Worded lang g) (ht : t.Consistent lang)
    (generation : Nat) : (Tree.balanceRoot lang generation t).Worded lang g
      ∧ SameLetters lang t (Tree.balanceRoot lang generation t) := by
  -- all that a list is turned into has its label
  have hall := balanceRoot_induction lang
    (R := fun t u => t.Worded lang g → u.Worded lang g ∧ SameLetters lang t u ∧ Alike t u)
    generation t (fun h => ⟨h, .refl t, .refl t⟩) ?_
  · exact ⟨(hall h).1, (hall h).2.1⟩
  · intro hdepth u v hu huv hworded
    obtain ⟨hu, hsame, halike⟩ := hu hworded
    have haux : lang.visibility u.symbol = .auxiliary := by
      rw [halike.symbol]
      cases ht with
      | token root => simp [repeatDepth] at hdepth
      | branch root children => exact root.list hdepth
    obtain ⟨hv, hsame'⟩ := worded_of_rotated huv hu haux
    exact ⟨hv, hsame.trans hsame', halike.trans (alike_of_rotated huv)⟩

/-- **Balancing keeps the visible nodes in order.** -/
theorem Worded.balance {t : Tree} (h : t.Worded lang g) (ht : t.Consistent lang)
    (generation : Nat) : (t.balance lang generation).Worded lang g
      ∧ SameLetters lang t (t.balance lang generation) := by
  induction hn : t.weight using Nat.strongRecOn generalizing t with
  | _ n ih =>
    obtain ⟨hroot, hsame⟩ := h.balanceRoot ht generation
    have hconsistent := (ht.balanceRoot generation).1
    rw [balance_eq]
    cases hu : Tree.balanceRoot lang generation t with
    | token k =>
      rw [hu] at hroot hsame
      exact ⟨hroot, hsame⟩
    | branch b cs =>
      rw [hu] at hroot hsame hconsistent
      have hcs : ∀ c ∈ cs, (balanceChild lang generation c).Worded lang g
          ∧ SameLetters lang c (balanceChild lang generation c) := by
        intro c hc
        have hworded : c.Worded lang g := Every.of_mem hroot hc
        rcases balanceChild_eq_or lang generation c with heq | heq
        · rw [heq]
          exact ⟨hworded, .refl c⟩
        · have hlt : c.weight < n := by
            rw [← hn, ← weight_balanceRoot lang generation t, hu, weight_branch]
            exact Nat.lt_succ_of_le (weight_le_of_mem hc)
          rw [heq]
          exact ih _ hlt hworded (hconsistent.child hc) rfl
      have hall : List.Forall₂ (SameLetters lang) cs
          (cs.map (balanceChild lang generation)) := by
        rw [List.forall₂_map_right_iff]
        exact List.forall₂_same.mpr fun c hc => (hcs c hc).2
      have hsameRoot : Branch.SameRoot b b := by constructor <;> simp
      refine ⟨hroot.congr hsameRoot hall fun d hd => ?_,
        hsame.trans (sameLetters_branch hsameRoot hall)⟩
      obtain ⟨c, hc, rfl⟩ := List.mem_map.mp hd
      exact (hcs c hc).1

end Tree

end SyntaxKit
