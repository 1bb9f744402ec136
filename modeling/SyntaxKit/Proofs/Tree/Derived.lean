import SyntaxKit.Proofs.Language.Generated
import SyntaxKit.Proofs.Tree.Balance

/-!
# Derived trees

A tree is derived if the children of each of its nodes, extras apart, are a word of the rule of the
node, where hidden nodes and lists stand as they are (`Tree.Derived`).  What a tree says is that word
with everything expanded: `Tree.letters` goes down to the first nodes that are shown, for some choice
of the symbols that are.  If the choice and a way to read the rules go together (`Cuts`), then what is
shown below a node is a word of its rule (`Tree.Derived.word`).
-/

namespace SyntaxKit

open Grammar

variable {lang : Language} {g : Listed}

/-- A token of a derived tree. -/
structure Token.Derived (lang : Language) (g : Listed) (k : Token) : Prop where
  bound : k.symbol < lang.tokenCount
  grammar : k.extra = false → k.symbol ≠ Symbol.endOfText
  extra : k.extra = true → k.symbol ≠ Symbol.endOfText →
    ∃ p ∈ g.extras, g.pattern? (lang.kindOf k.symbol) = some p

namespace Tree

/-- The children of a production that do not stand beside the grammar, with their fields; `index`
counts them. -/
def members (lang : Language) (production : Nat) : List Tree → Nat → List (Tree × Option String)
  | [], _ => []
  | c :: cs, index =>
    if c.isExtra then members lang production cs index
    else (c, lang.fieldOf? production index) :: members lang production cs (index + 1)

theorem mem_of_mem_members {production index : Nat} {cs : List Tree} {x : Tree × Option String}
    (h : x ∈ members lang production cs index) : x.1 ∈ cs ∧ x.1.isExtra = false := by
  induction cs generalizing index with
  | nil => simp [members] at h
  | cons c cs ih =>
    rw [members] at h
    split at h
    · obtain ⟨hmem, hextra⟩ := ih h
      exact ⟨List.mem_cons_of_mem _ hmem, hextra⟩
    · next hc =>
      rcases List.mem_cons.mp h with rfl | h
      · exact ⟨List.mem_cons_self .., by simpa using hc⟩
      · obtain ⟨hmem, hextra⟩ := ih h
        exact ⟨List.mem_cons_of_mem _ hmem, hextra⟩

/-- Where there are no members, all children stand beside the grammar. -/
theorem extra_of_members_eq_nil {production index : Nat} {cs : List Tree}
    (h : members lang production cs index = []) : ∀ c ∈ cs, c.isExtra = true := by
  induction cs with
  | nil => simp
  | cons c cs ih =>
    rw [members] at h
    split at h
    · next hc => exact List.forall_mem_cons.mpr ⟨hc, ih h⟩
    · simp at h

/-- The letter that a child is for its parent. -/
def letter (lang : Language) (x : Tree × Option String) : Letter :=
  ⟨lang.kindOf x.1.symbol, x.2⟩

/-- The symbols of the children as the children of their production. -/
theorem map_letter_members (production index : Nat) (cs : List Tree) :
    (members lang production cs index).map (letter lang) = lang.spelling production index
      ((cs.filter fun c => !c.isExtra).map (·.symbol)) := by
  induction cs generalizing index with
  | nil => rfl
  | cons c cs ih =>
    rw [members]
    cases hc : c.isExtra with
    | true => simpa [hc] using ih index
    | false =>
      have hrest := ih (index + 1)
      simp [hc, Language.spelling, letter, hrest]

end Tree

/-- Some trees neither begin nor end with one that stands beside the grammar. -/
def Tree.Trimmed (ts : List Tree) : Prop :=
  (∀ t, ts.head? = some t → t.isExtra = false) ∧ ∀ t, ts.getLast? = some t → t.isExtra = false

/-- A single member of trimmed children is all that there is. -/
theorem Tree.Trimmed.eq_singleton {cs : List Tree} (h : Tree.Trimmed cs) {production index : Nat}
    {x : Tree × Option String} (hone : Tree.members lang production cs index = [x]) :
    cs = [x.1] := by
  cases cs with
  | nil => simp [Tree.members] at hone
  | cons c cs =>
    have hfirst := h.1 c rfl
    rw [Tree.members, if_neg (by simp [hfirst]), List.cons.injEq] at hone
    obtain ⟨rfl, hnone⟩ := hone
    cases hlast : cs.getLast? with
    | none => rw [List.getLast?_eq_none_iff.mp hlast]
    | some d =>
      -- the last child stands in the grammar, so it is a member too
      have hextra := Tree.extra_of_members_eq_nil hnone d (List.mem_of_getLast? hlast)
      have hd := h.2 d (by rw [List.getLast?_cons, hlast]; rfl)
      exact absurd (hextra.symm.trans hd) (by simp)

/-- The children of a branch of a derived tree are a word of its rule; if it is a list, then its
production gives no fields.  Only around a whole program there is something beside the grammar. -/
structure Branch.Derived (lang : Language) (g : Listed) (b : Branch) (cs : List Tree) : Prop where
  bound : lang.tokenCount ≤ b.symbol ∧ b.symbol < lang.symbols.size
  grammar : b.extra = false
  word : ∃ r, g.meaning? (lang.kindOf b.symbol) = some r
    ∧ Word g.inner none r ((Tree.members lang b.production cs 0).map (Tree.letter lang))
  list : g.list? (lang.kindOf b.symbol) ≠ none → lang.productions.getD b.production [] = []
  trimmed : lang.kindOf b.symbol ≠ .rule g.start → Tree.Trimmed cs

/-- All tokens and branches of a tree are derived. -/
def Tree.Derived (lang : Language) (g : Listed) (t : Tree) : Prop :=
  t.Every (Token.Derived lang g) (Branch.Derived lang g)

/-! ## What is shown of a tree -/

namespace Tree

section Letters

variable (lang) (shown : Symbol → Bool)

mutual

/-- The first nodes of a tree that are shown, from left to right, if it stands under a field. -/
def letters (f : Option String) : Tree → List Letter
  | token k => if shown k.symbol then [⟨lang.kindOf k.symbol, f⟩] else []
  | branch b cs =>
    if shown b.symbol then [⟨lang.kindOf b.symbol, f⟩] else lettersOf f b.production cs 0

/-- The first nodes that are shown of the children of a production, extras apart. -/
def lettersOf (f : Option String) (production : Nat) : List Tree → Nat → List Letter
  | [], _ => []
  | c :: cs, index =>
    if c.isExtra then lettersOf f production cs index
    else letters ((lang.fieldOf? production index).orElse fun _ => f) c
      ++ lettersOf f production cs (index + 1)

end

theorem letters_token (f : Option String) (k : Token) : letters lang shown f (token k)
    = if shown k.symbol then [⟨lang.kindOf k.symbol, f⟩] else [] := by rw [letters]

theorem letters_branch (f : Option String) (b : Branch) (cs : List Tree) :
    letters lang shown f (branch b cs) = if shown b.symbol then [⟨lang.kindOf b.symbol, f⟩]
      else lettersOf lang shown f b.production cs 0 := by rw [letters]

@[simp] theorem lettersOf_nil (f : Option String) (production index : Nat) :
    lettersOf lang shown f production [] index = [] := by rw [lettersOf]

theorem lettersOf_cons (f : Option String) (production : Nat) (c : Tree) (cs : List Tree)
    (index : Nat) : lettersOf lang shown f production (c :: cs) index
      = if c.isExtra then lettersOf lang shown f production cs index
        else letters lang shown ((lang.fieldOf? production index).orElse fun _ => f) c
          ++ lettersOf lang shown f production cs (index + 1) := by rw [lettersOf]

variable {lang shown}

theorem letters_of_shown {t : Tree} (f : Option String) (h : shown t.symbol = true) :
    letters lang shown f t = [⟨lang.kindOf t.symbol, f⟩] := by
  cases t with
  | token k => rw [letters_token, if_pos (show shown k.symbol = true from h), symbol]
  | branch b cs => rw [letters_branch, if_pos (show shown b.symbol = true from h), symbol]

theorem lettersOf_eq (f : Option String) (production : Nat) (cs : List Tree) (index : Nat) :
    lettersOf lang shown f production cs index = (members lang production cs index).flatMap
      fun x => letters lang shown (x.2.orElse fun _ => f) x.1 := by
  induction cs generalizing index with
  | nil => simp [members]
  | cons c cs ih =>
    rw [lettersOf_cons, members]
    split
    · exact ih index
    · rw [ih (index + 1), List.flatMap_cons]

theorem orElse_orElse (a b c : Option String) :
    ((a.orElse fun _ => b).orElse fun _ => c) = a.orElse fun _ => b.orElse fun _ => c := by
  cases a <;> rfl

mutual

/-- What stands under a field stands under it with all of its letters that have none. -/
theorem letters_under (f e : Option String) (t : Tree) :
    letters lang shown (e.orElse fun _ => f) t = (letters lang shown e t).map (·.under f) := by
  cases t with
  | token k =>
    rw [letters_token, letters_token]
    split <;> rfl
  | branch b cs =>
    have ih := lettersOf_under f e b.production cs 0
    rw [letters_branch, letters_branch]
    split
    · rfl
    · exact ih

theorem lettersOf_under (f e : Option String) (production : Nat) (cs : List Tree) (index : Nat) :
    lettersOf lang shown (e.orElse fun _ => f) production cs index
      = (lettersOf lang shown e production cs index).map (·.under f) := by
  cases cs with
  | nil => simp
  | cons c cs =>
    rw [lettersOf_cons, lettersOf_cons]
    split
    · exact lettersOf_under f e production cs index
    · have ih := letters_under f ((lang.fieldOf? production index).orElse fun _ => e) c
      have ih' := lettersOf_under f e production cs (index + 1)
      rw [List.map_append, ← ih, ← ih', orElse_orElse]

end

end Letters

end Tree

/-! ## Choices of what is shown -/

/-- A choice of the symbols that are shown goes together with a way to read the rules: what is shown
is kept, and what is not is expanded, tokens into nothing and nodes into their rules. -/
structure Cuts (lang : Language) (g : Listed) (shown : Symbol → Bool) (v : Reading) : Prop where
  bound : 1 ≤ lang.tokenCount ∧ lang.tokenCount ≤ lang.symbols.size
  keeps : ∀ s < lang.symbols.size, s ≠ Symbol.endOfText → shown s = true →
    v.keeps (lang.kindOf s) = true ∧ g.list? (lang.kindOf s) = none
  token : ∀ s < lang.tokenCount, s ≠ Symbol.endOfText → shown s = false →
    v.expand? (lang.kindOf s) = some .blank ∧ g.list? (lang.kindOf s) = none
  node : ∀ s < lang.symbols.size, lang.tokenCount ≤ s → shown s = false →
    v.expand? (lang.kindOf s) = g.rule? (lang.kindOf s)
  hidden : ∀ k r, g.inner.expand? k = some r → v.expand? k = some r

namespace Tree.Derived

variable {shown : Symbol → Bool} {v : Reading}

/-- What is shown of a child fills the place of its letter. -/
theorem fills (hcuts : Cuts lang g shown v) {c : Tree} (hc : c.Derived lang g)
    (hextra : c.isExtra = false) (f : Option String)
    (hword : ∀ b cs, c = branch b cs → ∃ r, g.meaning? (lang.kindOf b.symbol) = some r
      ∧ Word v none r (lettersOf lang shown none b.production cs 0)) :
    Word.Fills g.inner v ⟨lang.kindOf c.symbol, f⟩ (letters lang shown f c) := by
  have hkept : c.symbol < lang.symbols.size → c.symbol ≠ Symbol.endOfText →
      shown c.symbol = true →
        Word.Fills g.inner v ⟨lang.kindOf c.symbol, f⟩ (letters lang shown f c) := by
    intro hbound hend hshown
    obtain ⟨hkeeps, hlist⟩ := hcuts.keeps _ hbound hend hshown
    rw [letters_of_shown f hshown]
    exact ⟨fun _ => .keep f hkeeps, fun r hr => absurd (hlist.symm.trans hr) (by simp)⟩
  cases c with
  | token k =>
    have hk := Every.of_token hc
    have hend := hk.grammar hextra
    by_cases hshown : shown k.symbol = true
    · exact hkept (Nat.lt_of_lt_of_le hk.bound hcuts.bound.2) hend hshown
    · obtain ⟨hexpand, hlist⟩ := hcuts.token _ hk.bound hend (by simpa using hshown)
      rw [letters_token, if_neg hshown]
      exact ⟨fun _ => .expand hexpand (.blank f),
        fun r hr => absurd (hlist.symm.trans hr) (by simp)⟩
  | branch b cs =>
    obtain ⟨hlow, hhigh⟩ := (Every.of_branch hc).bound
    by_cases hshown : shown b.symbol = true
    · refine hkept hhigh (fun hend => ?_) hshown
      have hpos : 1 ≤ b.symbol := Nat.le_trans hcuts.bound.1 hlow
      rw [show b.symbol = 0 from hend] at hpos
      exact absurd hpos (by simp)
    · have hnode := hcuts.node _ hhigh hlow (by simpa using hshown)
      obtain ⟨r, hr, hword⟩ := hword b cs rfl
      have hunder := hword.under rfl f
      rw [← lettersOf_under f none] at hunder
      rw [letters_branch, if_neg hshown]
      rw [Listed.meaning?] at hr
      constructor
      · intro hkeeps
        have hnone : g.list? (lang.kindOf b.symbol) = none := by
          simpa [Listed.inner, symbol] using hkeeps
        rw [hnone] at hr
        exact .expand (hnode.trans hr) hunder
      · intro r' hr'
        have hsome : g.list? (lang.kindOf b.symbol) = some r' := hr'
        rw [hsome] at hr
        obtain rfl := Option.some.inj hr
        exact hunder

/-- **What is shown below a node of a derived tree is a word of its rule.** -/
theorem word (hcuts : Cuts lang g shown v) {t : Tree} (h : t.Derived lang g) :
    ∀ b cs, t = branch b cs → ∃ r, g.meaning? (lang.kindOf b.symbol) = some r
      ∧ Word v none r (lettersOf lang shown none b.production cs 0) := by
  induction h with
  | token root => exact fun b cs hb => by simp at hb
  | @branch b cs root children ih =>
    rintro b cs ⟨rfl, rfl⟩
    obtain ⟨r, hr, hword⟩ := root.word
    refine ⟨r, hr, ?_⟩
    let fill : Tree × Option String → Letter × List Letter :=
      fun x => (letter lang x, letters lang shown x.2 x.1)
    have hsubstitute := hword.substitute hcuts.hidden
      ((members lang b.production cs 0).map fill) (by simp [fill]) (fun p hp => by
        obtain ⟨x, hx, rfl⟩ := List.mem_map.mp hp
        obtain ⟨hmem, hextra⟩ := mem_of_mem_members hx
        exact fills hcuts (children _ hmem) hextra x.2 (ih _ hmem))
    rw [lettersOf_eq]
    simpa [fill, List.flatMap_map] using hsubstitute

end Tree.Derived

end SyntaxKit
