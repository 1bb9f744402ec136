import Mathlib.Tactic.Common
import SyntaxKit.Proofs.Text.Extent
import SyntaxKit.Tree.Basic

/-!
# What a branch knows of its children

`Branch.summarize` goes over the children of a branch once and computes several things together.
Here they are taken apart.  The padding of a branch is that of its first child, and its padding and
size together measure what its children stand for (`Branch.Fits`).  Its cost is the sum of the costs
of its children, lists of skipped text apart; for a branch that holds text in error a positive price
comes on top, so that such a branch always costs something.

`Tree.Every` lifts a condition on tokens, and one on branches with their children, to whole trees.
-/

namespace SyntaxKit

/-! ## Conditions on all nodes of a tree -/

/-- Every token of a tree meets one condition and every branch, with its children, another. -/
inductive Tree.Every (onToken : Token → Prop) (onBranch : Branch → List Tree → Prop) : Tree → Prop
  | token {k : Token} (root : onToken k) : Every onToken onBranch (.token k)
  | branch {b : Branch} {cs : List Tree} (root : onBranch b cs)
      (children : ∀ c ∈ cs, Every onToken onBranch c) : Every onToken onBranch (.branch b cs)

namespace Tree.Every

variable {onToken : Token → Prop} {onBranch : Branch → List Tree → Prop}

theorem of_token {k : Token} (h : (Tree.token k).Every onToken onBranch) : onToken k := by
  cases h with
  | token root => exact root

theorem of_branch {b : Branch} {cs : List Tree} (h : (Tree.branch b cs).Every onToken onBranch) :
    onBranch b cs := by
  cases h with
  | branch root children => exact root

theorem of_mem {t c : Tree} (h : t.Every onToken onBranch) (hc : c ∈ t.children) :
    c.Every onToken onBranch := by
  cases h with
  | token root => simp [Tree.children] at hc
  | branch root children => exact children c hc

end Tree.Every

/-! ## Sizes -/

namespace Tree

/-- The extent of what some trees stand for together. -/
def totalSizes (ts : List Tree) : Extent := ts.foldr (fun t e => t.totalSize + e) Extent.zero

@[simp] theorem totalSizes_nil : totalSizes [] = Extent.zero := rfl

@[simp] theorem totalSizes_cons (t : Tree) (ts : List Tree) :
    totalSizes (t :: ts) = t.totalSize + totalSizes ts := rfl

@[simp] theorem totalSizes_append (ts us : List Tree) :
    totalSizes (ts ++ us) = totalSizes ts + totalSizes us := by
  induction ts with
  | nil => simp
  | cons t ts ih => simp [ih, Extent.add_assoc]

/-- Each of some trees that follow each other has a property at the offset at which it begins. -/
def EachAt (p : Nat → Tree → Prop) : Nat → List Tree → Prop
  | _, [] => True
  | offset, t :: ts => p offset t ∧ EachAt p (offset + t.totalSize.bytes) ts

theorem eachAt_iff {p : Nat → Tree → Prop} {offset : Nat} {ts : List Tree} :
    EachAt p offset ts
      ↔ ∀ front t back, ts = front ++ t :: back → p (offset + (totalSizes front).bytes) t := by
  induction ts generalizing offset with
  | nil => simp [EachAt]
  | cons t ts ih =>
    rw [EachAt, ih]
    constructor
    · rintro ⟨hfirst, hrest⟩ front u back h
      cases front with
      | nil =>
        obtain ⟨rfl, -⟩ := List.cons.inj h
        exact hfirst
      | cons v front =>
        obtain ⟨rfl, rfl⟩ := List.cons.inj h
        rw [totalSizes_cons, Extent.bytes_add, ← Nat.add_assoc]
        exact hrest front u back rfl
    · refine fun h => ⟨h [] t ts rfl, fun front u back hts => ?_⟩
      have hu := h (t :: front) u back (by rw [hts, List.cons_append])
      rwa [totalSizes_cons, Extent.bytes_add, ← Nat.add_assoc] at hu

@[simp] theorem totalSize_setExtra (t : Tree) (extra : Bool) :
    (t.setExtra extra).totalSize = t.totalSize := by
  cases t <;> rfl

@[simp] theorem children_setExtra (t : Tree) (extra : Bool) :
    (t.setExtra extra).children = t.children := by
  cases t <;> rfl

@[simp] theorem symbol_setExtra (t : Tree) (extra : Bool) :
    (t.setExtra extra).symbol = t.symbol := by
  cases t <;> rfl

@[simp] theorem errorCost_setExtra (t : Tree) (extra : Bool) :
    (t.setExtra extra).errorCost = t.errorCost := by
  cases t <;> rfl

@[simp] theorem isExtra_setExtra (t : Tree) (extra : Bool) :
    (t.setExtra extra).isExtra = extra := by
  cases t <;> rfl

end Tree

namespace Branch

/-- The padding of a branch is that of its first child, and its size is the rest of what its
children stand for. -/
def Fits (b : Branch) : List Tree → Prop
  | [] => b.padding = Extent.zero ∧ b.size = Extent.zero
  | first :: rest => b.padding = first.padding ∧ b.size = first.size + Tree.totalSizes rest

theorem Fits.totalSize {b : Branch} {cs : List Tree} (h : b.Fits cs) :
    (Tree.branch b cs).totalSize = Tree.totalSizes cs := by
  cases cs with
  | nil => simp [Tree.totalSize, Tree.padding, Tree.size, h.1, h.2]
  | cons first rest =>
    show b.padding + b.size = _
    rw [h.1, h.2, ← Extent.add_assoc]
    rfl

variable (lang : Language)

/-! ## The summary, field by field -/

/-- What a child adds to the cost of a branch. -/
def childCost (b : Branch) (child : Tree) : Nat :=
  (if child.symbol = Symbol.skipped then 0 else child.errorCost) + b.skippedTreePrice lang child

/-- What the children add to the cost of a branch. -/
def childCosts (b : Branch) : List Tree → Nat
  | [] => 0
  | c :: cs => b.childCost lang c + childCosts b cs

theorem childCosts_pos_iff (b : Branch) (cs : List Tree) :
    0 < b.childCosts lang cs ↔ ∃ c ∈ cs, 0 < b.childCost lang c := by
  induction cs with
  | nil => simp [childCosts]
  | cons c cs ih =>
    simp only [childCosts, List.mem_cons, exists_eq_or_imp, ← ih]
    omega

theorem skippedTreePrice_congr {b b' : Branch} (h : b.symbol = b'.symbol) (child : Tree) :
    b.skippedTreePrice lang child = b'.skippedTreePrice lang child := by
  simp [skippedTreePrice, holdsErrors, h]

theorem childCosts_congr {b b' : Branch} (h : b.symbol = b'.symbol) (cs : List Tree) :
    b.childCosts lang cs = b'.childCosts lang cs := by
  induction cs with
  | nil => rfl
  | cons c cs ih =>
    rw [childCosts, childCosts, ih, childCost, childCost, skippedTreePrice_congr lang h]

/-- What going over the children leaves as it was. -/
structure SameRoot (b b' : Branch) : Prop where
  symbol : b'.symbol = b.symbol
  production : b'.production = b.production
  extra : b'.extra = b.extra
  changed : b'.changed = b.changed
  generation : b'.generation = b.generation
  fragileLeft : b.fragileLeft = true → b'.fragileLeft = true

theorem SameRoot.trans {a b c : Branch} (h : SameRoot a b) (h' : SameRoot b c) : SameRoot a c where
  symbol := h'.symbol.trans h.symbol
  production := h'.production.trans h.production
  extra := h'.extra.trans h.extra
  changed := h'.changed.trans h.changed
  generation := h'.generation.trans h.generation
  fragileLeft := h'.fragileLeft ∘ h.fragileLeft

theorem sameRoot_addChild (acc : Branch × Nat) (first : Bool) (child : Tree) :
    SameRoot acc.1 (addChild lang acc first child).1 := by
  constructor <;> simp +contextual [addChild]

theorem sameRoot_addChildren (acc : Branch × Nat) (cs : List Tree) :
    SameRoot acc.1 (addChildren lang acc cs).1 := by
  induction cs generalizing acc with
  | nil => constructor <;> simp [addChildren]
  | cons c cs ih => exact (sameRoot_addChild lang acc false c).trans (ih _)

theorem errorCost_addChild (acc : Branch × Nat) (first : Bool) (child : Tree) :
    (addChild lang acc first child).1.errorCost = acc.1.errorCost + acc.1.childCost lang child := by
  simp [addChild, childCost, Nat.add_assoc]

theorem errorCost_addChildren (acc : Branch × Nat) (cs : List Tree) :
    (addChildren lang acc cs).1.errorCost = acc.1.errorCost + acc.1.childCosts lang cs := by
  induction cs generalizing acc with
  | nil => simp [addChildren, childCosts]
  | cons c cs ih =>
    have hsymbol := (sameRoot_addChild lang acc false c).symbol
    rw [addChildren, ih, errorCost_addChild, childCosts_congr lang hsymbol]
    simp [childCosts, Nat.add_assoc]

theorem padding_addChildren (acc : Branch × Nat) (cs : List Tree) :
    (addChildren lang acc cs).1.padding = acc.1.padding := by
  induction cs generalizing acc with
  | nil => rfl
  | cons c cs ih =>
    rw [addChildren, ih]
    rfl

theorem size_addChildren (acc : Branch × Nat) (cs : List Tree) :
    (addChildren lang acc cs).1.size = acc.1.size + Tree.totalSizes cs := by
  induction cs generalizing acc with
  | nil => simp [addChildren]
  | cons c cs ih =>
    rw [addChildren, ih, Tree.totalSizes_cons, ← Extent.add_assoc]
    rfl

/-- The price of holding text in error. -/
def errorPrice (b : Branch) : Nat :=
  if b.holdsErrors then
    prices.recovery + prices.skippedByte * b.size.bytes + prices.skippedLine * b.size.point.row
  else 0

theorem errorPrice_pos {b : Branch} (h : b.holdsErrors = true) : 0 < b.errorPrice := by
  simp only [errorPrice, h, if_true, prices]
  omega

/-- A branch as it is before its children are gone over. -/
def blank (b : Branch) : Branch := { b with
  visibleChildren := 0, namedChildren := 0, visibleDescendants := 0, errorCost := 0
  repeatDepth := 0 }

/-- A branch after its children have been gone over, and how far they have looked. -/
def gathered (b : Branch) : List Tree → Branch × Nat
  | [] => (b.blank, 0)
  | first :: rest => addChildren lang (addChild lang (b.blank, 0) true first) rest

theorem sameRoot_gathered (b : Branch) (cs : List Tree) : SameRoot b (b.gathered lang cs).1 := by
  cases cs with
  | nil => constructor <;> simp [gathered, blank]
  | cons first rest =>
    have hfirst := sameRoot_addChild lang (b.blank, 0) true first
    have hrest := sameRoot_addChildren lang (addChild lang (b.blank, 0) true first) rest
    have hblank : SameRoot b b.blank := by constructor <;> simp [blank]
    exact hblank.trans (hfirst.trans hrest)

theorem errorCost_gathered (b : Branch) (cs : List Tree) :
    (b.gathered lang cs).1.errorCost = b.childCosts lang cs := by
  cases cs with
  | nil => rfl
  | cons first rest =>
    have hsymbol := (sameRoot_addChild lang (b.blank, 0) true first).symbol
    have hblank : b.blank.childCosts lang (first :: rest) = b.childCosts lang (first :: rest) :=
      childCosts_congr lang (show b.blank.symbol = b.symbol from rfl) (first :: rest)
    rw [gathered, errorCost_addChildren, errorCost_addChild, childCosts_congr lang hsymbol,
      ← hblank]
    show 0 + _ + _ = _
    simp [childCosts]

/-- The summary is what was gathered, and how far it was looked, what it costs to hold text in
error, and what is copied from the first child and the last. -/
theorem summarize_eq (b : Branch) (cs : List Tree) :
    SameRoot (b.gathered lang cs).1 (b.summarize lang cs)
      ∧ (b.summarize lang cs).padding = (b.gathered lang cs).1.padding
      ∧ (b.summarize lang cs).size = (b.gathered lang cs).1.size
      ∧ (b.summarize lang cs).errorCost
        = (b.gathered lang cs).1.errorCost + (b.gathered lang cs).1.errorPrice := by
  have hlast : ∀ (first : Tree) (rest : List Tree),
      ∃ last, (first :: rest).getLast? = some last := fun first rest => by
    rw [List.getLast?_cons]
    exact ⟨_, rfl⟩
  cases cs with
  | nil =>
    refine ⟨?_, rfl, rfl, rfl⟩
    constructor <;> simp [summarize, gathered, blank]
  | cons first rest =>
    obtain ⟨last, hlast⟩ := hlast first rest
    simp only [summarize, hlast]
    refine ⟨?_, rfl, rfl, rfl⟩
    constructor <;> simp +contextual [gathered, blank]

theorem sameRoot_summarize (b : Branch) (cs : List Tree) : SameRoot b (b.summarize lang cs) :=
  (sameRoot_gathered lang b cs).trans (summarize_eq lang b cs).1

@[simp] theorem symbol_summarize (b : Branch) (cs : List Tree) :
    (b.summarize lang cs).symbol = b.symbol := (sameRoot_summarize lang b cs).symbol

@[simp] theorem production_summarize (b : Branch) (cs : List Tree) :
    (b.summarize lang cs).production = b.production := (sameRoot_summarize lang b cs).production

@[simp] theorem extra_summarize (b : Branch) (cs : List Tree) :
    (b.summarize lang cs).extra = b.extra := (sameRoot_summarize lang b cs).extra

@[simp] theorem holdsErrors_summarize (b : Branch) (cs : List Tree) :
    (b.summarize lang cs).holdsErrors = b.holdsErrors := by
  rw [holdsErrors, holdsErrors, symbol_summarize]

/-- A branch fits its children after they have been gone over; one without children has to have
been empty before. -/
theorem fits_summarize {b : Branch} {cs : List Tree}
    (hnil : cs = [] → b.padding = Extent.zero ∧ b.size = Extent.zero) :
    (b.summarize lang cs).Fits cs := by
  obtain ⟨-, hpadding, hsize, -⟩ := summarize_eq lang b cs
  cases cs with
  | nil =>
    rw [Fits, hpadding, hsize]
    exact hnil rfl
  | cons first rest =>
    rw [Fits, hpadding, hsize, gathered, padding_addChildren, size_addChildren]
    exact ⟨rfl, rfl⟩

/-- The cost of a branch is that of its children, and a price if it holds text in error. -/
theorem errorCost_summarize (b : Branch) (cs : List Tree) :
    ∃ price, (b.summarize lang cs).errorCost = b.childCosts lang cs + price
      ∧ (0 < price ↔ b.holdsErrors = true) := by
  obtain ⟨-, -, -, hcost⟩ := summarize_eq lang b cs
  refine ⟨(b.gathered lang cs).1.errorPrice, ?_, ?_⟩
  · rw [hcost, errorCost_gathered]
  · have hsymbol : (b.gathered lang cs).1.holdsErrors = b.holdsErrors := by
      rw [holdsErrors, holdsErrors, (sameRoot_gathered lang b cs).symbol]
    constructor
    · intro h
      by_contra hnot
      rw [Bool.not_eq_true, ← hsymbol] at hnot
      simp [errorPrice, hnot] at h
    · intro h
      exact errorPrice_pos (hsymbol.trans h)

theorem errorCost_summarize_pos {b : Branch} (cs : List Tree) (h : b.holdsErrors = true) :
    0 < (b.summarize lang cs).errorCost := by
  obtain ⟨price, hcost, hprice⟩ := errorCost_summarize lang b cs
  have := hprice.mpr h
  omega

/-- A branch that holds no text in error costs something only if one of its children does. -/
theorem errorCost_summarize_pos_iff {b : Branch} {cs : List Tree} (h : b.holdsErrors = false)
    (hskipped : ∀ c ∈ cs, c.symbol ≠ Symbol.skipped) :
    0 < (b.summarize lang cs).errorCost ↔ ∃ c ∈ cs, 0 < c.errorCost := by
  obtain ⟨price, hcost, hprice⟩ := errorCost_summarize lang b cs
  have hzero : price = 0 := by
    by_contra hne
    have := hprice.mp (Nat.pos_of_ne_zero hne)
    simp [h] at this
  have hchild : ∀ c ∈ cs, b.childCost lang c = c.errorCost := by
    intro c hc
    simp [childCost, hskipped c hc, skippedTreePrice, h]
  rw [hcost, hzero, Nat.add_zero, childCosts_pos_iff]
  constructor
  · rintro ⟨c, hc, hpos⟩
    exact ⟨c, hc, hchild c hc ▸ hpos⟩
  · rintro ⟨c, hc, hpos⟩
    exact ⟨c, hc, (hchild c hc).symm ▸ hpos⟩

end Branch

namespace Tree

variable (lang : Language)

@[simp] theorem symbol_resummarize (t : Tree) : (t.resummarize lang).symbol = t.symbol := by
  cases t with
  | token k => rfl
  | branch b cs => exact Branch.symbol_summarize lang b cs

/-- The root of a new branch, before its children have been gone over. -/
def freshBranch (generation : Nat) (symbol : Symbol) (production : Nat) : Branch :=
  let fragile := symbol == Symbol.error || symbol == Symbol.skipped
  { symbol, production
    padding := Extent.zero, size := Extent.zero, lookahead := 0
    state := some 0, extra := false, changed := false
    fragileLeft := fragile, fragileRight := fragile
    errorCost := 0, visibleChildren := 0, namedChildren := 0, visibleDescendants := 0
    repeatDepth := 0
    firstSymbol := 0, firstState := some 0, generation }

theorem ofChildren_eq (generation : Nat) (symbol : Symbol) (production : Nat) (cs : List Tree) :
    ofChildren lang generation symbol production cs
      = branch ((freshBranch generation symbol production).summarize lang cs) cs := rfl

theorem fits_ofChildren (generation : Nat) (symbol : Symbol) (production : Nat) (cs : List Tree) :
    ((freshBranch generation symbol production).summarize lang cs).Fits cs :=
  Branch.fits_summarize lang fun _ => ⟨rfl, rfl⟩

@[simp] theorem totalSize_ofChildren (generation : Nat) (symbol : Symbol) (production : Nat)
    (cs : List Tree) :
    (ofChildren lang generation symbol production cs).totalSize = totalSizes cs := by
  rw [ofChildren_eq]
  exact (fits_ofChildren lang generation symbol production cs).totalSize

@[simp] theorem symbol_ofChildren (generation : Nat) (symbol : Symbol) (production : Nat)
    (cs : List Tree) : (ofChildren lang generation symbol production cs).symbol = symbol :=
  Branch.symbol_summarize lang _ cs

@[simp] theorem isExtra_ofChildren (generation : Nat) (symbol : Symbol) (production : Nat)
    (cs : List Tree) : (ofChildren lang generation symbol production cs).isExtra = false :=
  Branch.extra_summarize lang _ cs

@[simp] theorem children_ofChildren (generation : Nat) (symbol : Symbol) (production : Nat)
    (cs : List Tree) : (ofChildren lang generation symbol production cs).children = cs := rfl

end Tree

end SyntaxKit
