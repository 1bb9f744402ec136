import SyntaxKit.Proofs.Parse.Pop
import SyntaxKit.Parse.Run

/-!
# Laws that parsing keeps to

`Law.Closed` lists what a law has to allow so that a parser that starts within the law stays within
it: one condition for each kind of thing that is put on a stack.  Whatever holds of all trees of a
parser is proved by stating a law and checking these conditions; that the parser then keeps to it
is proved once, in the modules that follow.

`Parse.Sound` is what holds of a parse throughout: its stack is sound, and so is whatever else it
has at hand.
-/

namespace SyntaxKit

/-- A subtree as it is put on a stack: a leaf is marked as standing beside the grammar or not. -/
def Tree.shifted (extra : Bool) (t : Tree) : Tree :=
  if t.isLeaf && extra != t.isExtra then t.setExtra extra else t

@[simp] theorem Tree.totalSize_shifted (extra : Bool) (t : Tree) :
    (t.shifted extra).totalSize = t.totalSize := by
  rw [shifted]
  split <;> simp

@[simp] theorem Parse.totalSize_settle (ambiguous : Bool) (state : ParseState) (t : Tree) :
    (settle ambiguous state t).totalSize = t.totalSize := by
  cases t with
  | token k => rfl
  | branch b cs => cases ambiguous <;> rfl

namespace Law

/-- A subtree that a reading may go on with at a position: what it may wait with, or the first part
of that. -/
def Part (L : Law) (position : Extent) (u : Tree) : Prop :=
  ∃ t tooLarge, L.waits position t ∧ u = t.firstPart tooLarge

theorem part_of_waits {L : Law} {position : Extent} {t : Tree} (h : L.waits position t) :
    L.Part position t := by
  refine ⟨t, fun _ => false, h, ?_⟩
  rcases t with k | ⟨b, _ | ⟨first, rest⟩⟩ <;> simp [Tree.firstPart]

/-- The list of skipped text that a token becomes. -/
def skippedOver (env : Setting) (t : Tree) : Tree :=
  Tree.ofChildren env.lang env.generation Symbol.skipped 0
    [if Parse.isExtraToken env.lang t.symbol then t.setExtra true else t]

/-- The state reached when a subtree is replaced by its children and one of them is pushed. -/
def stateOver (env : Setting) (state : ParseState) (child : Tree) : ParseState :=
  if child.isError then ParseState.recovering
  else if child.isExtra then state
  else env.lang.nextState state child.symbol

/-- The children of a subtree that is divided may be pushed one after the other, each leading to its
own state, and then the extras that were behind it. -/
def Divided (L : Law) (env : Setting) (extras : List Tree) : Spot → List Tree → Prop
  | a, [] => L.Row a.state a extras
  | a, c :: cs =>
    L.step a (some c) (a.reach (some c) (stateOver env a.state c))
      ∧ (c.isLeaf = false → L.divides c)
      ∧ Divided L env extras (a.reach (some c) (stateOver env a.state c)) cs

/-- No child beside the grammar is the last one, or the first one of as many as a reduction takes. -/
def Trimmed (count : Nat) (children : List Tree) : Prop :=
  (∀ c, children.getLast? = some c → c.isExtra = false) ∧ Stack.BeginsWithin count children

/-- Instead of the children of a node the node may be pushed, and then the extras that were behind
them, where the children end at a place. -/
def Reduces (L : Law) (env : Setting) (b : Spot) (symbol : Symbol) (count production : Nat) : Prop :=
  ∀ {a children extras} (ambiguous : Bool), L.stands a →
    L.Chain a (children ++ extras) count b → (∀ e ∈ extras, e.isExtra = true) →
    Trimmed count children →
    L.step a (some (Parse.settle ambiguous a.state
        (Tree.ofChildren env.lang env.generation symbol production children)))
        (a.reach (some (Parse.settle ambiguous a.state
          (Tree.ofChildren env.lang env.generation symbol production children)))
          (env.lang.nextState a.state symbol))
      ∧ L.Row (env.lang.nextState a.state symbol)
        (a.reach (some (Parse.settle ambiguous a.state
            (Tree.ofChildren env.lang env.generation symbol production children)))
          (env.lang.nextState a.state symbol)) extras

/-- Where a reading stands that has come out of a reduction at a place. -/
def Landed (L : Law) (env : Setting) (b : Spot) (symbol : Symbol) (count production : Nat)
    (c : Spot) : Prop :=
  ∃ a children extras, ∃ ambiguous : Bool, L.stands a ∧ L.Chain a (children ++ extras) count b
    ∧ (∀ e ∈ extras, e.isExtra = true) ∧ Trimmed count children
    ∧ c = (a.reach (some (Parse.settle ambiguous a.state (Tree.ofChildren env.lang env.generation
        symbol production children))) (env.lang.nextState a.state symbol)).along
      (env.lang.nextState a.state symbol) extras

/-- A reading that has come out of a reduction is as far on as it was. -/
theorem Landed.bytes {L : Law} {env : Setting} {b c : Spot} {symbol : Symbol} {count production : Nat}
    (h : L.Landed env b symbol count production c) : c.position.bytes = b.position.bytes := by
  obtain ⟨a, children, extras, ambiguous, -, hchain, -, -, rfl⟩ := h
  rw [Spot.position_along, Extent.bytes_add, hchain.bytes, Tree.totalSizes_append, Spot.reach]
  simp only [Parse.totalSize_settle, Tree.totalSize_ofChildren, Extent.bytes_add, Nat.add_assoc]

/-- What a law has to allow so that reductions keep to it whatever the next token is. -/
structure Reducing (L : Law) (env : Setting) : Prop where
  reduces {b token symbol count production} : L.stands b →
    .reduce symbol count production ∈ env.lang.actions b.state token →
    L.Reduces env b symbol count production
  lands {b c token symbol count production} :
    .reduce symbol count production ∈ env.lang.actions b.state token →
    L.Landed env b symbol count production c → L.tops b → L.tops c

/-- Where a reading stands that has gone back and had pushed what was above, wrapped as an error unless
all of it stands beside the grammar. -/
def wrapped (env : Setting) (goal : ParseState) (a : Spot) (children extras : List Tree) : Spot :=
  (if children = [] then a
  else a.reach (some ((Tree.ofChildren env.lang env.generation Symbol.error 0 children).setExtra
    true)) goal).along goal extras

/-- Whoever goes back over a number of subtrees pays, or has paid before. -/
def Pays (L : Law) (b : Spot) (count : Nat) : Prop :=
  ∀ {m trees}, L.Chain m trees count b → L.tops b ∨ ∃ t ∈ trees, t.isExtra = false

/-- What a law has to allow so that a reading that is in recovery, or is to be, keeps to it. -/
structure Recovers (L : Law) (env : Setting) : Prop extends L.Reducing env where
  missing {a token first looked} : L.stands a → 1 ≤ token → token < env.lang.tokenCount →
    env.lang.nextState a.state token ≠ 0 → env.lang.nextState a.state token ≠ a.state →
    env.lang.reducesOn (env.lang.nextState a.state token) first = true →
    L.step a (some (Tree.missingToken token Extent.zero looked))
        (a.reach (some (Tree.missingToken token Extent.zero looked))
          (env.lang.nextState a.state token))
      ∧ L.tops (a.reach (some (Tree.missingToken token Extent.zero looked))
        (env.lang.nextState a.state token))
  /-- What is above a state that is gone back to is wrapped, with the error below it if any. -/
  wrap {a m b error trees children extras count count'} : L.stands a → L.stands m →
    m.state ≠ ParseState.recovering → L.Chain m trees count b →
    (error = none ∧ a = m ∨ ∃ e, error = some e ∧ e.isError = true ∧ L.Chain a [e] count' m) →
    ((error.map Tree.children).getD [] ++ trees) = children ++ extras →
    (∀ e ∈ extras, e.isExtra = true) → (∀ c, children.getLast? = some c → c.isExtra = false) →
    (if children = [] then L.Row m.state a extras
      else L.step a (some ((Tree.ofChildren env.lang env.generation Symbol.error 0
            children).setExtra true))
          (a.reach (some ((Tree.ofChildren env.lang env.generation Symbol.error 0
            children).setExtra true)) m.state)
        ∧ L.Row m.state (a.reach (some ((Tree.ofChildren env.lang env.generation Symbol.error 0
            children).setExtra true)) m.state) extras)
      ∧ (L.tops b ∨ (∃ t ∈ trees, t.isExtra = false) →
        L.tops (wrapped env m.state a children extras))
  skip {b t} : L.stands b → L.Part b.position t →
    L.step b (some (skippedOver env t)) (b.reach (some (skippedOver env t)) ParseState.recovering)
      ∧ L.tops (b.reach (some (skippedOver env t)) ParseState.recovering)
  /-- A token is added to what lies on top. -/
  skipOver {a b t trees count} : L.stands a → L.stands b → L.Chain a trees count b →
    L.Part b.position t →
    L.step a (some (Tree.ofChildren env.lang env.generation Symbol.skipped 0
          (trees ++ [skippedOver env t])))
        (a.reach (some (Tree.ofChildren env.lang env.generation Symbol.skipped 0
          (trees ++ [skippedOver env t]))) ParseState.recovering)
      ∧ L.tops (a.reach (some (Tree.ofChildren env.lang env.generation Symbol.skipped 0
          (trees ++ [skippedOver env t]))) ParseState.recovering)
  /-- At the end of the text everything is wrapped as an error. -/
  giveUp {b t trees count root} : L.Chain Spot.origin trees count b → L.stands b →
    L.Part b.position t → t.isEndOfText = true →
    Parse.rootOf env
      (trees ++ [Tree.ofChildren env.lang env.generation Symbol.error 0 [], t]) = some root →
    L.whole root

/-- What a law has to allow so that a reading that enters recovery keeps to it. -/
structure Enters (L : Law) (env : Setting) : Prop extends L.Recovers env where
  mark {a} : L.stands a → L.tops a → L.step a none (a.reach none ParseState.recovering)
    ∧ L.tops (a.reach none ParseState.recovering)

/-- What a law has to allow so that readings that are advanced keep to it. -/
structure Advances (L : Law) (env : Setting) : Prop where
  origin : L.stands Spot.origin
  /-- The next token may be read at any place. -/
  read {a} : L.stands a → L.tops a →
    L.waits a.position (.token (Lexer.next env.lang env.source a.state a.position))
      ∧ L.faces a (.token (Lexer.next env.lang env.source a.state a.position))
  /-- A token that was read at another place with the same offset may be taken over. -/
  cached {a k} : L.stands a → L.tops a → L.waits a.position (.token k) →
    Parse.canReuse env a.state (.token k) (env.lang.entry? a.state k.symbol) = true →
    L.faces a (.token k)
  /-- A keyword with which nothing can be done may be taken as an identifier. -/
  word {a t} : L.stands a → L.waits a.position t → L.faces a t → t.isKeyword = true →
    (∀ x ∈ env.lang.actions a.state t.firstSymbol, ∃ next, x = .shift next true) →
    L.waits a.position (Parse.asWord env t) ∧ L.faces a (Parse.asWord env t)
  /-- An unchanged part of the earlier tree may be taken over where it begins. -/
  reuse {t a} : L.spare a.position.bytes t → Parse.mustBreak t = false → L.stands a → L.tops a →
    L.waits a.position t ∧ L.faces a t
  shift {a t next} : L.stands a → L.tops a → L.waits a.position t → L.faces a t → t.isLeaf = true →
    .shift next false ∈ env.lang.actions a.state t.firstSymbol →
    L.step a (some (t.shifted false)) (a.reach (some (t.shifted false)) next)
      ∧ L.tops (a.reach (some (t.shifted false)) next)
  shiftExtra {a t} : L.stands a → L.tops a → L.waits a.position t → t.isLeaf = true →
    .shiftExtra ∈ env.lang.actions a.state t.firstSymbol →
    L.step a (some (t.shifted true)) (a.reach (some (t.shifted true)) a.state)
      ∧ L.tops (a.reach (some (t.shifted true)) a.state)
  /-- Of a larger subtree the first part is pushed. -/
  shiftPart {a t} (extra tooLarge) : L.stands a → L.tops a → L.waits a.position t →
    t.isLeaf = false →
    (if extra then .shiftExtra ∈ env.lang.actions a.state t.firstSymbol
      else ∃ next, .shift next false ∈ env.lang.actions a.state t.firstSymbol) →
    (L.step a (some ((t.firstPart tooLarge).shifted extra))
          (a.reach (some ((t.firstPart tooLarge).shifted extra))
            (env.lang.nextState a.state (t.firstPart tooLarge).symbol))
        ∧ L.tops (a.reach (some ((t.firstPart tooLarge).shifted extra))
          (env.lang.nextState a.state (t.firstPart tooLarge).symbol)))
      ∧ ((t.firstPart tooLarge).isLeaf = false → L.divides (t.firstPart tooLarge))
  reduces {b t symbol count production} : L.stands b → L.tops b → L.waits b.position t →
    L.faces b t → .reduce symbol count production ∈ env.lang.actions b.state t.firstSymbol →
    L.Reduces env b symbol count production
  /-- A reading may go on with the same after a reduction. -/
  lands {b c t symbol count production} : L.stands c → L.waits b.position t → L.faces b t →
    .reduce symbol count production ∈ env.lang.actions b.state t.firstSymbol →
    L.Landed env b symbol count production c → L.tops b → L.tops c ∧ L.faces c t
  accept {b t trees count root} : L.Chain Spot.origin trees count b → L.stands b → L.tops b →
    L.waits b.position t → .accept ∈ env.lang.actions b.state t.firstSymbol →
    Parse.rootOf env (trees ++ [t]) = some root → L.whole root
  /-- A subtree that was taken over whole is replaced by its children. -/
  divide {a b t extras count} : L.divides t → L.stands a → L.Chain a (t :: extras) count b →
    (∀ e ∈ extras, e.isExtra = true) →
    (Tree.totalSizes t.children).bytes = t.totalSize.bytes ∧ L.Divided env extras a t.children
  /-- Nothing is replaced if it matters where a reading stands. -/
  divides {t} : L.divides t → ∀ a, L.tops a
  /-- Where a reading can recover, the law allows it. -/
  recovers {a token} : L.stands a → L.tops a → .recover ∈ env.lang.actions a.state token → L.Recovers env

/-- What a law has to allow so that parsing keeps to it, if it does not restrict where a reading may
stand nor what it may go on with. -/
structure Closed (L : Law) (env : Setting) : Prop where
  tops : ∀ a, L.tops a
  faces : ∀ a t, L.faces a t
  origin : L.stands Spot.origin
  /-- The next token may be read at any place, in any state. -/
  read {a} : L.stands a → ∀ state,
    L.waits a.position (.token (Lexer.next env.lang env.source state a.position))
  /-- A keyword may be taken as an identifier. -/
  word {p t} : L.waits p t → t.isKeyword = true → L.waits p (Parse.asWord env t)
  /-- An unchanged part of the earlier tree may be taken over where it begins. -/
  reuse {t a} : L.spare a.position.bytes t → Parse.mustBreak t = false → L.stands a →
    L.waits a.position t
  shift {a t next} : L.stands a → L.waits a.position t → t.isLeaf = true →
    .shift next false ∈ env.lang.actions a.state t.firstSymbol →
    L.step a (some (t.shifted false)) (a.reach (some (t.shifted false)) next)
  shiftExtra {a t} : L.stands a → L.waits a.position t → t.isLeaf = true →
    .shiftExtra ∈ env.lang.actions a.state t.firstSymbol →
    L.step a (some (t.shifted true)) (a.reach (some (t.shifted true)) a.state)
  /-- Of a larger subtree the first part is pushed. -/
  shiftPart {a t} (extra tooLarge) : L.stands a → L.waits a.position t → t.isLeaf = false →
    (if extra then .shiftExtra ∈ env.lang.actions a.state t.firstSymbol
      else ∃ next, .shift next false ∈ env.lang.actions a.state t.firstSymbol) →
    L.step a (some ((t.firstPart tooLarge).shifted extra))
        (a.reach (some ((t.firstPart tooLarge).shifted extra))
          (env.lang.nextState a.state (t.firstPart tooLarge).symbol))
      ∧ ((t.firstPart tooLarge).isLeaf = false → L.divides (t.firstPart tooLarge))
  /-- The children of a reduction are replaced by their node. -/
  reduce {a b children extras symbol count production token} (ambiguous) : L.stands a →
    L.Chain a (children ++ extras) count b → (∀ e ∈ extras, e.isExtra = true) →
    Trimmed count children → .reduce symbol count production ∈ env.lang.actions b.state token →
    L.step a (some (Parse.settle ambiguous a.state
        (Tree.ofChildren env.lang env.generation symbol production children)))
        (a.reach (some (Parse.settle ambiguous a.state
          (Tree.ofChildren env.lang env.generation symbol production children)))
          (env.lang.nextState a.state symbol))
      ∧ L.Row (env.lang.nextState a.state symbol)
        (a.reach (some (Parse.settle ambiguous a.state
            (Tree.ofChildren env.lang env.generation symbol production children)))
          (env.lang.nextState a.state symbol)) extras
  mark {a} : L.stands a → L.step a none (a.reach none ParseState.recovering)
  missing {a token first looked} : L.stands a → 1 ≤ token → token < env.lang.tokenCount →
    env.lang.nextState a.state token ≠ 0 → env.lang.nextState a.state token ≠ a.state →
    env.lang.reducesOn (env.lang.nextState a.state token) first = true →
    L.step a (some (Tree.missingToken token Extent.zero looked))
      (a.reach (some (Tree.missingToken token Extent.zero looked))
        (env.lang.nextState a.state token))
  /-- What is above a state that is gone back to is wrapped, with the error below it if any. -/
  wrap {a m b error trees children extras count count'} : L.stands a → L.stands m →
    m.state ≠ ParseState.recovering → L.Chain m trees count b →
    (error = none ∧ a = m ∨ ∃ e, error = some e ∧ e.isError = true ∧ L.Chain a [e] count' m) →
    ((error.map Tree.children).getD [] ++ trees) = children ++ extras →
    (∀ e ∈ extras, e.isExtra = true) →
    if children = [] then L.Row m.state a extras
    else L.step a (some ((Tree.ofChildren env.lang env.generation Symbol.error 0
          children).setExtra true))
        (a.reach (some ((Tree.ofChildren env.lang env.generation Symbol.error 0
          children).setExtra true)) m.state)
      ∧ L.Row m.state (a.reach (some ((Tree.ofChildren env.lang env.generation Symbol.error 0
          children).setExtra true)) m.state) extras
  skip {b t} : L.stands b → L.Part b.position t →
    L.step b (some (skippedOver env t)) (b.reach (some (skippedOver env t)) ParseState.recovering)
  /-- A token is added to what lies on top. -/
  skipOver {a b t trees count} : L.stands a → L.stands b → L.Chain a trees count b →
    L.Part b.position t →
    L.step a (some (Tree.ofChildren env.lang env.generation Symbol.skipped 0
        (trees ++ [skippedOver env t])))
      (a.reach (some (Tree.ofChildren env.lang env.generation Symbol.skipped 0
        (trees ++ [skippedOver env t]))) ParseState.recovering)
  accept {b t trees count root} : L.Chain Spot.origin trees count b → L.stands b →
    L.waits b.position t → .accept ∈ env.lang.actions b.state t.firstSymbol →
    Parse.rootOf env (trees ++ [t]) = some root → L.whole root
  /-- At the end of the text everything is wrapped as an error. -/
  giveUp {b t trees count root} : L.Chain Spot.origin trees count b → L.stands b →
    L.Part b.position t → t.isEndOfText = true →
    Parse.rootOf env
      (trees ++ [Tree.ofChildren env.lang env.generation Symbol.error 0 [], t]) = some root →
    L.whole root
  /-- A subtree that was taken over whole is replaced by its children. -/
  divide {a b t extras count} : L.divides t → L.stands a → L.Chain a (t :: extras) count b →
    (∀ e ∈ extras, e.isExtra = true) →
    (Tree.totalSizes t.children).bytes = t.totalSize.bytes ∧ L.Divided env extras a t.children

namespace Closed

variable {L : Law} {env : Setting}

theorem enters (hL : L.Closed env) : L.Enters env where
  reduces _ hmem := by
    intro a children extras ambiguous ha hchain hextras htrimmed
    exact hL.reduce ambiguous ha hchain hextras htrimmed hmem
  lands _ _ _ := hL.tops _
  missing ha hpos hlt hleads hmoves hreduces :=
    ⟨hL.missing ha hpos hlt hleads hmoves hreduces, hL.tops _⟩
  wrap ha hm hstate hchain herror hsplit hextras _ :=
    ⟨hL.wrap ha hm hstate hchain herror hsplit hextras, fun _ => hL.tops _⟩
  skip hb hpart := ⟨hL.skip hb hpart, hL.tops _⟩
  skipOver ha hb hchain hpart := ⟨hL.skipOver ha hb hchain hpart, hL.tops _⟩
  giveUp hchain hb hpart hend hroot := hL.giveUp hchain hb hpart hend hroot
  mark ha _ := ⟨hL.mark ha, hL.tops _⟩

theorem advances (hL : L.Closed env) : L.Advances env where
  origin := hL.origin
  read ha _ := ⟨hL.read ha _, hL.faces _ _⟩
  cached _ _ _ _ := hL.faces _ _
  word _ hwaits _ hkeyword _ := ⟨hL.word hwaits hkeyword, hL.faces _ _⟩
  reuse hspare hbreak ha _ := ⟨hL.reuse hspare hbreak ha, hL.faces _ _⟩
  shift ha _ hwaits _ hleaf hmem := ⟨hL.shift ha hwaits hleaf hmem, hL.tops _⟩
  shiftExtra ha _ hwaits hleaf hmem := ⟨hL.shiftExtra ha hwaits hleaf hmem, hL.tops _⟩
  shiftPart extra tooLarge ha _ hwaits hleaf hmem :=
    ⟨⟨(hL.shiftPart extra tooLarge ha hwaits hleaf hmem).1, hL.tops _⟩,
      (hL.shiftPart extra tooLarge ha hwaits hleaf hmem).2⟩
  reduces hb _ _ _ hmem := hL.enters.reduces hb hmem
  lands _ _ _ _ _ _ := ⟨hL.tops _, hL.faces _ _⟩
  accept hchain hb _ hwaits hmem hroot := hL.accept hchain hb hwaits hmem hroot
  divide := hL.divide
  divides _ := hL.tops
  recovers _ _ _ := hL.enters.toRecovers

end Closed

end Law

namespace Stack

/-- The readings from `n` on that have not ended stand where a law lets readings stand. -/
def Placed (L : Law) (n : Nat) (s : Stack) : Prop :=
  ∀ w, n ≤ w → w < s.count → (s.head w).status ≠ .halted → L.tops (s.spot w)

variable {L : Law} {live : Nat → Prop} {n : Nat} {s s' : Stack}

/-- Every reading from `n` on stands where one of those stood before. -/
theorem Placed.of_heads (h : s.Placed L n) (hextends : Extends s s') (hs : Sound L live s)
    (hheads : ∀ w, n ≤ w → w < s'.count → (s'.head w).status ≠ .halted → ∃ u, n ≤ u ∧ u < s.count
      ∧ (s'.head w).top = (s.head u).top ∧ (s.head u).status ≠ .halted) : s'.Placed L n := by
  intro w hw hlt hstatus
  obtain ⟨u, hu, hult, htop, hustatus⟩ := hheads w hw hlt hstatus
  have hspot : s'.spot w = s.spot u := by
    rw [spot, spot, top, top, htop]
    exact hextends.spots _ (hs.bound _ ((hs.heads u id).top_live hustatus))
  rw [hspot]
  exact h u hu hult hustatus

theorem Placed.merged (h : s.Placed L n) (hs : Sound L live s) {v : Nat}
    (hmerged : Merged v s s') : s'.Placed L n := by
  have hcount := hmerged.count
  refine h.of_heads hmerged.toExtends hs fun w hw hlt hstatus => ?_
  obtain ⟨htop, hstatus'⟩ := hmerged.heads w
  by_cases hwv : w < v
  · rw [if_pos hwv] at htop hstatus'
    refine ⟨w, hw, ?_, htop, hstatus' ▸ hstatus⟩
    split at hcount <;> omega
  · rw [if_neg hwv] at htop hstatus'
    refine ⟨w + 1, by omega, ?_, htop, hstatus' ▸ hstatus⟩
    split at hcount <;> omega

/-- A later reading is put in the place of an earlier one. -/
theorem Placed.replace (h : s.Placed L n) (hs : Sound L live s) {v target : Nat}
    (htarget : target < v) (hv : v < s.count) : (s.replace v target).Placed L n := by
  refine h.of_heads (.of_vertices (vertices_replace s v target)) hs fun w hw hlt hstatus => ?_
  rw [count_replace (by omega) hv] at hlt
  obtain ⟨htop, hstatus'⟩ := head_replace htarget (Nat.lt_trans htarget hv) w
  refine ⟨_, ?_, ?_, htop, hstatus' ▸ hstatus⟩
  · split <;> [skip; split] <;> omega
  · split <;> [skip; split] <;> omega

theorem Placed.swap (h : s.Placed L 0) (hs : Sound L live s) {v w : Nat} (hv : v < s.count)
    (hw : w < s.count) : (s.swap v w).Placed L 0 := by
  refine h.of_heads (.of_vertices rfl) hs fun u _ hlt hstatus => ?_
  have hhead : (s.swap v w).head u = s.head (if u = w then v else if u = v then w else u) := by
    rw [Stack.swap, head_setHead, head_setHead, count_setHead]
    grind
  rw [hhead] at hstatus ⊢
  refine ⟨_, Nat.zero_le _, ?_, rfl, hstatus⟩
  have hcount : (s.swap v w).count = s.count := by simp [Stack.swap]
  split
  · exact hv
  · split
    · exact hw
    · exact hcount ▸ hlt

/-- Readings that are struck off at the end of the list. -/
theorem Placed.take (h : s.Placed L n) (hs : Sound L live s) (k : Nat) :
    ({ s with heads := s.heads.take k } : Stack).Placed L n := by
  refine h.of_heads (.of_vertices rfl) hs fun u hu hlt hstatus => ?_
  simp only [count, Array.take_eq_extract, Array.size_extract] at hlt
  rw [head_take, if_pos (by omega)] at hstatus ⊢
  exact ⟨u, hu, by rw [count]; omega, rfl, hstatus⟩

/-- One reading has gone on or has ended, and the others that were there are where they were; it and
the new ones stand where they may. -/
structure Moved (L : Law) (v : Nat) (s s' : Stack) : Prop extends Extends s s' where
  count : s.count ≤ s'.count
  others : ∀ w < s.count, w ≠ v → SameHead s s' w
  placed : ∀ w, s.count ≤ w ∨ w = v → w < s'.count → (s'.head w).status ≠ .halted →
    L.tops (s'.spot w)

theorem Placed.moved (h : s.Placed L n) (hs : Sound L live s) {v : Nat} (hmoved : Moved L v s s') :
    s'.Placed L n := by
  intro w hw hlt hstatus
  by_cases hnew : s.count ≤ w ∨ w = v
  · exact hmoved.placed w hnew hlt hstatus
  · have hin : w < s.count := by omega
    obtain ⟨htop, hsame⟩ := hmoved.others w hin (by omega)
    rw [hmoved.toExtends.spot ⟨htop, hsame⟩ (hs.bound _ ((hs.heads w id).top_live (hsame ▸ hstatus)))]
    exact h w hw hin (hsame ▸ hstatus)

/-- A reading that has not ended newly is listed otherwise where it stands. -/
theorem Placed.setHead (h : s.Placed L n) (v : Nat) {new : Head} (htop : new.top = (s.head v).top)
    (hstatus : new.status ≠ .halted → (s.head v).status ≠ .halted) : (s.setHead v new).Placed L n := by
  intro w hw hlt hw'
  rw [count_setHead] at hlt
  rw [head_setHead] at hw'
  have hspot : (s.setHead v new).spot w = s.spot w := by
    rw [spot, spot, top, top, head_setHead]
    split
    · next heq => rw [htop, heq.1]; rfl
    · rfl
  rw [hspot]
  split at hw'
  · next heq => exact h w hw hlt (heq.1 ▸ hstatus hw')
  · exact h w hw hlt hw'

/-- Readings that are kept stand where they stood. -/
theorem Placed.of_kept {m : Nat} (h : s.Placed L n) (hs : Sound L live s) (hkept : Kept m s s')
    (hcount : m ≤ s.count) (hnew : s'.Placed L m) : s'.Placed L n := by
  intro w hw hlt hstatus
  by_cases hwm : w < m
  · obtain ⟨htop, hsame⟩ := hkept.heads w hwm
    rw [hkept.toExtends.spot ⟨htop, hsame⟩ (hs.bound _ ((hs.heads w id).top_live (hsame ▸ hstatus)))]
    exact h w hw (Nat.lt_of_lt_of_le hwm hcount) (hsame ▸ hstatus)
  · exact hnew w (Nat.le_of_not_lt hwm) hlt hstatus

/-- Something has happened to a reading, and some have been added, before it goes on. -/
theorem Moved.after {s'' : Stack} {v : Nat} (hextends : Extends s s') (hcount : s.count ≤ s'.count)
    (hothers : ∀ w < s.count, w ≠ v → SameHead s s' w) (hs' : Sound L live s')
    (hplaced : s'.Placed L s.count) (h : Moved L v s' s'') : Moved L v s s'' where
  toExtends := hextends.trans h.toExtends
  count := Nat.le_trans hcount h.count
  others w hw hne := (hothers w hw hne).trans (h.others w (Nat.lt_of_lt_of_le hw hcount) hne)
  placed w hw hlt hstatus := by
    by_cases hv : w = v
    · exact h.placed w (.inr hv) hlt hstatus
    · exact hplaced.moved hs' h w (hw.resolve_right hv) hlt hstatus

/-- Something has been added before a reading goes on. -/
theorem Moved.of_kept {s'' : Stack} {v : Nat} (hkept : Kept s.count s s') (hs' : Sound L live s')
    (hplaced : s'.Placed L s.count) (h : Moved L v s' s'') : Moved L v s s'' :=
  h.after hkept.toExtends hkept.count (fun w hw _ => hkept.heads w hw) hs' hplaced

theorem Moved.trans {s'' : Stack} {v : Nat} (h : Moved L v s s') (hs' : Sound L live s')
    (h' : Moved L v s' s'') : Moved L v s s'' where
  toExtends := h.toExtends.trans h'.toExtends
  count := Nat.le_trans h.count h'.count
  others w hw hne := (h.others w hw hne).trans (h'.others w (Nat.lt_of_lt_of_le hw h.count) hne)
  placed w hw hlt hstatus := by
    by_cases hnew : s'.count ≤ w ∨ w = v
    · exact h'.placed w hnew hlt hstatus
    · have hin : w < s'.count := by omega
      obtain ⟨htop, hsame⟩ := h'.others w hin (by omega)
      rw [h'.toExtends.spot ⟨htop, hsame⟩
        (hs'.bound _ ((hs'.heads w id).top_live (hsame ▸ hstatus)))]
      exact h.placed w hw hin (hsame ▸ hstatus)

/-- Something happens to readings that were added when a reading went on. -/
theorem Moved.kept {s'' : Stack} {v : Nat} (h : Moved L v s s') (hs' : Sound L live s')
    (hkept : Kept s.count s' s'') (hplaced : s''.Placed L s.count) : Moved L v s s'' where
  toExtends := h.toExtends.trans hkept.toExtends
  count := hkept.count
  others w hw hne := (h.others w hw hne).trans (hkept.heads w hw)
  placed w hw hlt hstatus := by
    by_cases hle : s.count ≤ w
    · exact hplaced w hle hlt hstatus
    · obtain ⟨htop, hsame⟩ := hkept.heads w (Nat.lt_of_not_le hle)
      rw [hkept.toExtends.spot ⟨htop, hsame⟩
        (hs'.bound _ ((hs'.heads w id).top_live (hsame ▸ hstatus)))]
      exact h.placed w hw (Nat.lt_of_lt_of_le (Nat.lt_of_not_le hle) h.count) (hsame ▸ hstatus)

/-- Only what readings know of themselves has changed. -/
structure Same (s s' : Stack) : Prop where
  vertices : s'.vertices = s.vertices
  count : s'.count = s.count
  heads : ∀ w, SameHead s s' w

theorem Same.refl (s : Stack) : Same s s := ⟨rfl, rfl, fun _ => ⟨rfl, rfl⟩⟩

theorem Same.trans {s'' : Stack} (h : Same s s') (h' : Same s' s'') : Same s s'' :=
  ⟨h'.vertices.trans h.vertices, h'.count.trans h.count, fun w => (h.heads w).trans (h'.heads w)⟩

theorem Same.kept (h : Same s s') (hn : n ≤ s.count) : Kept n s s' :=
  .of_vertices h.vertices (h.count ▸ hn) fun w _ => h.heads w

theorem Same.placed (h : Same s s') (hplaced : s.Placed L n) : s'.Placed L n := by
  intro w hw hlt hstatus
  obtain ⟨htop, hsame⟩ := h.heads w
  have hspot : s'.spot w = s.spot w := by
    rw [spot, spot, top, top, htop, vertex, vertex, h.vertices]
  rw [hspot]
  exact hplaced w hw (h.count ▸ hlt) (hsame ▸ hstatus)

/-- A reading has ended. -/
theorem moved_halt {v : Nat} (hv : v < s.count) (hsame : Same s s') : Moved L v s (s'.halt v) where
  toExtends := .of_vertices hsame.vertices
  count := Nat.le_of_eq (by rw [halt, count_setHead, hsame.count])
  others w _ hne := by
    rw [SameHead, halt, head_setHead, if_neg fun h => hne h.1]
    exact hsame.heads w
  placed w hw hlt hstatus := by
    rw [halt, count_setHead, hsame.count] at hlt
    obtain rfl : w = v := hw.resolve_left (Nat.not_le.mpr hlt)
    rw [halt, head_setHead, if_pos ⟨rfl, hsame.count ▸ hv⟩] at hstatus
    exact absurd rfl hstatus

theorem same_nodesSinceError (s : Stack) (v : Nat) : Same s (s.nodesSinceError v).1 := by
  rw [nodesSinceError]
  split
  · exact ⟨rfl, count_setHead .., SameHead.of_setHead rfl rfl⟩
  · exact .refl s

theorem Placed.remove (h : s.Placed L n) (hs : Sound L live s) (v : Nat) :
    (s.remove v).Placed L n := h.merged hs (merged_remove s v)

end Stack

namespace Parse

/-- What lies behind a place in the walk, which ends at an offset, may be at hand. -/
def Behind (L : Law) : Nat → Tree.Walk → Prop
  | _, [] => True
  | offset, s :: above =>
    Tree.EachAt L.spare offset s.right ∧ Behind L (offset + (Tree.totalSizes s.right).bytes) above

/-- Everything that is still to come in the walk may be at hand. -/
def Spare (L : Law) : Tree.Walk → Prop
  | [] => True
  | s :: above =>
    L.spare s.offset s.tree ∧ Behind L (s.offset + s.tree.totalSize.bytes) (s :: above)

/-- Everything that a parse has at hand obeys a law. -/
structure Sound (L : Law) (p : Parse) : Prop where
  stack : ∃ live, p.stack.Sound L live
  cached : ∀ offset t, p.cached = some (offset, t) →
    ∃ a, L.stands a ∧ a.position.bytes = offset ∧ L.waits a.position (.token t)
  walk : Spare L p.walk
  finished : ∀ t, p.finished = some t → L.whole t

variable {L : Law} {p : Parse}

theorem Sound.withStack (h : p.Sound L) {stack : Stack} (hstack : ∃ live, stack.Sound L live) :
    ({ p with stack } : Parse).Sound L :=
  ⟨hstack, h.cached, h.walk, h.finished⟩

theorem Sound.onStack (h : p.Sound L) {f : Stack → Stack}
    (hf : ∃ live, (f p.stack).Sound L live) : (p.onStack f).Sound L := h.withStack hf

/-- Everything that a parse has at hand obeys a law, and the readings stand where they may. -/
structure Obeys (L : Law) (p : Parse) : Prop extends p.Sound L where
  placed : p.stack.Placed L 0

theorem Obeys.of_stack {p' : Parse} (h : p.Obeys L) (hp' : p'.Sound L) (hstack : p'.stack = p.stack) :
    p'.Obeys L := ⟨hp', hstack ▸ h.placed⟩

theorem Obeys.moved {p' : Parse} (h : p.Obeys L) (hp' : p'.Sound L) {v : Nat}
    (hmoved : Stack.Moved L v p.stack p'.stack) : p'.Obeys L := by
  obtain ⟨live, hs⟩ := h.stack
  exact ⟨hp', h.placed.moved hs hmoved⟩

/-- A reading of a parse that obeys a law stands where it may. -/
theorem Obeys.tops (h : p.Obeys L) {v : Nat} (hv : v < p.stack.count)
    (hactive : (p.stack.head v).status = .active) : L.tops (p.stack.spot v) :=
  h.placed v (Nat.zero_le v) hv (by simp [hactive])

/-- Where a reading of a sound parse stands there may be one. -/
theorem Sound.stands (h : p.Sound L) {v : Nat} (hv : (p.stack.head v).status ≠ .halted) :
    L.stands (p.stack.spot v) := by
  obtain ⟨live, hs⟩ := h.stack
  exact hs.stands _ ((hs.heads v id).top_live hv)

end Parse

end SyntaxKit
