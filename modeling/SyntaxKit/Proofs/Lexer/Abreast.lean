import Mathlib.Data.Finset.Max
import Mathlib.Data.List.Find
import SyntaxKit.Proofs.Language.Lossless
import SyntaxKit.Proofs.Lexer.Token

/-!
# Two runs of the lexical automaton abreast

A text is read by one automaton from different states, and what is read from two of them at one place
is mostly the same.  `Language.Accords` says where it may differ: what is read from some state is what is
read from that of recovery, with the same beginning and end, or a token that may be read instead of
it, or one of a few tokens that only some states read at all.

`Language.isAccordant` decides this by letting two runs go abreast (`Abreast`) over all characters, until
nothing new is found.  That nothing is new is checked of the outcome, and that both runs have always
found what they may (`Lexer.accord_of_closed`).
-/

namespace SyntaxKit

/-- In which way tokens that are read at one place may differ: tokens that may be read instead of any
other one, and pairs of a token and one that may be read instead of it. -/
structure Accord where
  anywhere : List Symbol
  instead : List (Symbol × Symbol)

/-- Two runs of the automaton: the states that they are in unless they have stopped, the tokens found
last, whether these have been found at the same place, and whether they begin at the same one. -/
structure Abreast where
  left : Option Nat
  right : Option Nat
  leftFound : Option Symbol
  rightFound : Option Symbol
  together : Bool
  aligned : Bool
deriving BEq, ReflBEq, LawfulBEq

namespace Abreast

/-- Both runs come to a place, where they may recognise a token. -/
def meet (p : Abreast) (x y : Option Symbol) : Abreast :=
  { p with
    leftFound := x <|> p.leftFound
    rightFound := y <|> p.rightFound
    together := if x.isNone && y.isNone then p.together else x.isSome && y.isSome }

/-- Whether what has been found is in accord. -/
def inAccord (d : Accord) (p : Abreast) : Bool :=
  match p.rightFound with
  | none => true
  | some t => d.anywhere.contains t || p.aligned && match p.leftFound with
    | none => false
    | some t' => p.together && t' == t || d.instead.contains (t', t)

/-- Whether the two runs are one. -/
def isOne (p : Abreast) : Bool :=
  p.left == p.right && p.leftFound == p.rightFound && p.together && p.aligned

/-- Whether the right run has stopped with what is in accord with everything. -/
def isSettled (d : Accord) (p : Abreast) : Bool :=
  p.isOne || p.right.isNone && match p.rightFound with
    | none => true
    | some t => d.anywhere.contains t

end Abreast

namespace LexEdge

/-- Whether the edge is taken on the character with a number. -/
def admitsAt (e : LexEdge) (n : Nat) : Bool := e.ranges.any fun r => r.1 ≤ n && n ≤ r.2

/-- The numbers at which it changes whether the edge is taken. -/
def breaks (e : LexEdge) : List Nat := e.ranges.flatMap fun r => [r.1, r.2 + 1]

/-- Whether an edge is taken depends on the last break only. -/
theorem admitsAt_eq_of_breaks {e : LexEdge} {n p : Nat} (hp : p ≤ n)
    (hlast : ∀ b ∈ e.breaks, b ≤ n → b ≤ p) : e.admitsAt n = e.admitsAt p := by
  rw [admitsAt, admitsAt, Bool.eq_iff_iff, List.any_eq_true, List.any_eq_true]
  refine exists_congr fun r => and_congr_right fun hr => ?_
  have hfrom := hlast r.1 (List.mem_flatMap.mpr ⟨r, hr, by simp⟩)
  have hto := hlast (r.2 + 1) (List.mem_flatMap.mpr ⟨r, hr, by simp⟩)
  simp only [Bool.and_eq_true, decide_eq_true_eq]
  omega

end LexEdge

namespace Language

variable (lang : Language)

/-- The edge on which a run that has not stopped goes on over a character, given by its number. -/
def edgeAt (i : Option Nat) (n : Nat) : Option LexEdge :=
  i.bind fun i => (lang.lexRow i).edges.find? (·.admitsAt n)

/-- The token that a run recognises where it is. -/
def acceptsAt (i : Option Nat) : Option Symbol := i.bind fun i => (lang.lexRow i).accepts

/-- The token that a run recognises if the text ends where it is. -/
def acceptsAtEnd (i : Option Nat) : Option Symbol :=
  i.bind fun i => (lang.lexRow i).atEnd.bind fun last => (lang.lexRow last).accepts

/-- The numbers at which it changes how a run goes on. -/
def breaksAt (i : Option Nat) : List Nat :=
  match i with
  | none => []
  | some i => (lang.lexRow i).edges.flatMap (·.breaks)

/-- Two runs where they are. -/
def arrived (p : Abreast) : Abreast := p.meet (lang.acceptsAt p.left) (lang.acceptsAt p.right)

/-- Two runs at the end of the text. -/
def ended (p : Abreast) : Abreast :=
  (lang.arrived p).meet (lang.acceptsAtEnd p.left) (lang.acceptsAtEnd p.right)

/-- Whether what an edge is taken on is passed over before the token. -/
def skipsOn (e : Option LexEdge) : Bool := (e.map (·.skips)).getD false

/-- Two runs that go on over a character, given by its number. -/
def onward (p : Abreast) (n : Nat) : Abreast :=
  let e := lang.edgeAt p.left n
  let f := lang.edgeAt p.right n
  { lang.arrived p with
    left := e.map (·.target)
    right := f.map (·.target)
    aligned := p.aligned && skipsOn e == skipsOn f }

/-- Two runs behind all characters, but for those that make no difference. -/
def onwards (p : Abreast) : List Abreast :=
  (0 :: (lang.breaksAt p.left ++ lang.breaksAt p.right)).map (lang.onward p)

/-- Two runs as they begin, the one from the state of recovery. -/
def outset (i : Nat) : Abreast :=
  ⟨some (lang.lexState ParseState.recovering), some i, none, none, true, true⟩

/-- Everything that two runs come to, given what is still to be looked at and what has been seen. -/
def courses (d : Accord) : Nat → List Abreast → List Abreast → List Abreast
  | 0, _, seen => seen
  | _ + 1, [], seen => seen
  | n + 1, p :: todo, seen =>
    if p.isSettled d || seen.contains p then courses d n todo seen
    else courses d n (lang.onwards p ++ todo) (p :: seen)

/-- Whether runs are in accord wherever the text ends, and do not go on to where they have not been
looked at. -/
def areInAccord (d : Accord) (ps : List Abreast) : Bool :=
  ps.all fun p => (lang.ended p).inAccord d
    && (lang.onwards p).all fun q => q.isSettled d || ps.contains q

/-- The states of the lexical automaton from which a parser reads. -/
def readingStates : List Nat := (lang.parseStates.toList.map (·.lexState)).dedup

/-- Whether runs from all states are among those that have been looked at and are in accord. -/
def startInAccord (d : Accord) (ps : List Abreast) : Bool :=
  lang.areInAccord d ps && (0 :: lang.readingStates).all fun i =>
    (lang.outset i).isSettled d || ps.contains (lang.outset i)

/-- Decides whether what is read at a place from two states is in accord. -/
def isAccordant (d : Accord) : Bool :=
  lang.startInAccord d (lang.courses d 10000 ((0 :: lang.readingStates).map lang.outset) [])

variable {lang}

theorem mem_readingStates (state : ParseState) : lang.lexState state ∈ 0 :: lang.readingStates := by
  rw [lexState]
  rcases row_mem_or_default lang state with h | h
  · exact List.mem_cons_of_mem _ (List.mem_dedup.mpr (List.mem_map_of_mem h))
  · rw [h]
    exact List.mem_cons_self ..

end Language

namespace Lexer

variable {lang : Language} {d : Accord}

/-! ## Runs that may have stopped -/

/-- Where a token begins, and what has been found. -/
abbrev Find := Extent × Option (Symbol × Extent)

/-- What a run comes to, that is in a state or has stopped. -/
def goOn (lang : Language) (i : Option Nat) (rest : List Char) (start pos : Extent)
    (found : Option (Symbol × Extent)) : Find :=
  match i with
  | none => (start, found)
  | some i => ((run lang i rest start pos found).start, (run lang i rest start pos found).found)

/-- What has been found, when a token is recognised at a place. -/
def mark (x : Option Symbol) (pos : Extent) (found : Option (Symbol × Extent)) :
    Option (Symbol × Extent) :=
  match x with
  | some symbol => some (symbol, pos)
  | none => found

theorem arrive_eq_mark (s : LexState) (pos : Extent) (found : Option (Symbol × Extent)) :
    arrive s pos found = mark s.accepts pos found := by
  cases h : s.accepts <;> simp [arrive, mark, h]

theorem getD_lexStates (i : Nat) : lang.lexStates.getD i default = lang.lexRow i := rfl

theorem goOn_nil (i : Option Nat) (start pos : Extent) (found : Option (Symbol × Extent)) :
    goOn lang i [] start pos found
      = (start, mark (lang.acceptsAtEnd i) pos (mark (lang.acceptsAt i) pos found)) := by
  cases i with
  | none => rfl
  | some i =>
    rw [goOn, run]
    simp only [getD_lexStates, arrive_eq_mark]
    split
    · next last hlast => simp [Language.acceptsAtEnd, Language.acceptsAt, hlast]
    · next hnone => simp [Language.acceptsAtEnd, Language.acceptsAt, hnone, mark]

theorem goOn_cons (i : Option Nat) (c : Char) (rest : List Char) (start pos : Extent)
    (found : Option (Symbol × Extent)) :
    goOn lang i (c :: rest) start pos found
      = goOn lang ((lang.edgeAt i c.toNat).map (·.target)) rest
          (if Language.skipsOn (lang.edgeAt i c.toNat) then pos.push c else start) (pos.push c)
          (mark (lang.acceptsAt i) pos found) := by
  cases i with
  | none => rfl
  | some i =>
    rw [goOn, run]
    simp only [getD_lexStates, arrive_eq_mark]
    have hedge : lang.edgeAt (some i) c.toNat = (lang.lexRow i).edges.find? (·.admits c) := rfl
    split
    · next hnone => simp [hedge, hnone, goOn, Language.skipsOn, Language.acceptsAt]
    · next e he => simp [hedge, he, goOn, Language.skipsOn, Language.acceptsAt]

/-! ## Keeping abreast -/

/-- What has been found by two runs is as it is said to be. -/
structure Found (p : Abreast) (x y : Find) : Prop where
  left : x.2.map Prod.fst = p.leftFound
  right : y.2.map Prod.fst = p.rightFound
  together : p.together = true → x.2.map Prod.snd = y.2.map Prod.snd
  aligned : p.aligned = true → x.1 = y.1

/-- What has been read from one state is in accord with what has been read from that of recovery. -/
def InAccord (d : Accord) (x y : Find) : Prop :=
  ∀ t stop, y.2 = some (t, stop) → t ∈ d.anywhere ∨ x.1 = y.1
    ∧ (x.2 = some (t, stop) ∨ ∃ t' stop', x.2 = some (t', stop') ∧ (t', t) ∈ d.instead)

theorem map_mark (x : Option Symbol) (pos : Extent) (found : Option (Symbol × Extent)) :
    (mark x pos found).map Prod.fst = (x <|> found.map Prod.fst) := by
  cases x <;> rfl

theorem Found.meet {p : Abreast} {s₁ s₂ : Extent} {f₁ f₂ : Option (Symbol × Extent)}
    (h : Found p (s₁, f₁) (s₂, f₂)) (x y : Option Symbol) (pos : Extent) :
    Found (p.meet x y) (s₁, mark x pos f₁) (s₂, mark y pos f₂) where
  left := by rw [map_mark, h.left]; rfl
  right := by rw [map_mark, h.right]; rfl
  together htogether := by
    cases x <;> cases y <;> simp_all [Abreast.meet, mark]
    exact h.together htogether
  aligned := h.aligned

theorem Found.inAccord {p : Abreast} {x y : Find} (h : Found p x y) (hp : p.inAccord d = true) :
    InAccord d x y := by
  intro t stop hy
  have hright := h.right
  rw [hy] at hright
  rw [Abreast.inAccord, ← hright] at hp
  simp only [Option.map_some, Bool.or_eq_true, Bool.and_eq_true, List.contains_iff_mem] at hp
  refine hp.imp_right fun ⟨haligned, hleft⟩ => ⟨h.aligned haligned, ?_⟩
  rw [← h.left] at hleft
  cases hx : x.2 with
  | none => simp [hx] at hleft
  | some found =>
    obtain ⟨t', stop'⟩ := found
    rw [hx] at hleft
    simp only [Option.map_some, Bool.or_eq_true, Bool.and_eq_true, beq_iff_eq,
      List.contains_iff_mem] at hleft
    rcases hleft with ⟨htogether, rfl⟩ | hinstead
    · have hsame := h.together htogether
      rw [hx, hy] at hsame
      obtain rfl : stop' = stop := by simpa using hsame
      exact .inl rfl
    · exact .inr ⟨t', stop', rfl, hinstead⟩

/-- Two runs that are one come to the same. -/
theorem Found.eq_of_isOne {p : Abreast} {x y : Find} (h : Found p x y) (hp : p.isOne = true) :
    p.left = p.right ∧ x = y := by
  simp only [Abreast.isOne, Bool.and_eq_true, beq_iff_eq] at hp
  obtain ⟨⟨⟨hstate, hfound⟩, htogether⟩, haligned⟩ := hp
  have hsame := h.together htogether
  rw [← h.left, ← h.right] at hfound
  refine ⟨hstate, Prod.ext (h.aligned haligned) ?_⟩
  cases hx : x.2 <;> cases hy : y.2 <;> simp_all [Prod.ext_iff]

theorem InAccord.refl (d : Accord) (x : Find) : InAccord d x x :=
  fun _ _ hx => .inr ⟨rfl, .inl hx⟩

/-- Nothing more is to be said of runs that are one, or of which the right one has stopped. -/
theorem Found.inAccord_of_isSettled {p : Abreast} {s₁ s₂ : Extent}
    {f₁ f₂ : Option (Symbol × Extent)} (h : Found p (s₁, f₁) (s₂, f₂)) (hp : p.isSettled d = true)
    (rest : List Char) (pos : Extent) :
    InAccord d (goOn lang p.left rest s₁ pos f₁) (goOn lang p.right rest s₂ pos f₂) := by
  rw [Abreast.isSettled, Bool.or_eq_true] at hp
  rcases hp with hone | hstopped
  · obtain ⟨hstate, hsame⟩ := h.eq_of_isOne hone
    obtain ⟨rfl, rfl⟩ := Prod.mk.inj hsame
    rw [hstate]
    exact .refl d _
  · rw [Bool.and_eq_true, Option.isNone_iff_eq_none] at hstopped
    obtain ⟨hnone, hfound⟩ := hstopped
    intro t stop hright
    rw [hnone, goOn] at hright
    have hsymbol := h.right
    simp only at hright hsymbol
    rw [hright] at hsymbol
    rw [← hsymbol] at hfound
    exact .inl (by simpa using hfound)

variable (lang) in
/-- Behind a character there is a break behind which two runs go on as they do there. -/
theorem exists_break (i j : Option Nat) (n : Nat) :
    ∃ b ∈ 0 :: (lang.breaksAt i ++ lang.breaksAt j),
      lang.edgeAt i n = lang.edgeAt i b ∧ lang.edgeAt j n = lang.edgeAt j b := by
  let before := ((0 :: (lang.breaksAt i ++ lang.breaksAt j)).filter (· ≤ n)).toFinset
  obtain ⟨b, hb, hlast⟩ := before.exists_max_image id ⟨0, by simp [before]⟩
  simp only [before, List.mem_toFinset, List.mem_filter, decide_eq_true_eq, id] at hb hlast
  have hedge : ∀ k, (∀ x ∈ lang.breaksAt k, x ≤ n → x ≤ b) → lang.edgeAt k n = lang.edgeAt k b := by
    intro k hk
    cases k with
    | none => rfl
    | some k =>
      refine List.find?_congr fun e he => LexEdge.admitsAt_eq_of_breaks hb.2 fun x hx => ?_
      exact hk x (List.mem_flatMap.mpr ⟨e, he, hx⟩)
  exact ⟨b, hb.1, hedge i fun x hx hle => hlast x ⟨by simp [hx], hle⟩,
    hedge j fun x hx hle => hlast x ⟨by simp [hx], hle⟩⟩

/-- **Two runs among those that have been looked at are in accord**, whatever the text is. -/
theorem inAccord_goOn {ps : List Abreast} (hps : lang.areInAccord d ps = true) (rest : List Char) :
    ∀ {p : Abreast} {s₁ s₂ : Extent} {f₁ f₂ : Option (Symbol × Extent)} (pos : Extent),
      p.isSettled d = true ∨ p ∈ ps → Found p (s₁, f₁) (s₂, f₂) →
      InAccord d (goOn lang p.left rest s₁ pos f₁) (goOn lang p.right rest s₂ pos f₂) := by
  induction rest with
  | nil =>
    intro p s₁ s₂ f₁ f₂ pos hp hfound
    rcases hp with hsettled | hmem
    · exact hfound.inAccord_of_isSettled hsettled [] pos
    · have hlook := (Bool.and_eq_true _ _ ▸ List.all_eq_true.mp hps p hmem).1
      rw [goOn_nil, goOn_nil]
      exact ((hfound.meet _ _ pos).meet _ _ pos).inAccord hlook
  | cons c rest ih =>
    intro p s₁ s₂ f₁ f₂ pos hp hfound
    rcases hp with hsettled | hmem
    · exact hfound.inAccord_of_isSettled hsettled (c :: rest) pos
    · have hlook := (Bool.and_eq_true _ _ ▸ List.all_eq_true.mp hps p hmem).2
      rw [goOn_cons, goOn_cons]
      obtain ⟨b, hb, hleft, hright⟩ := exists_break lang p.left p.right c.toNat
      have honward := List.all_eq_true.mp hlook _ (List.mem_map_of_mem hb)
      rw [Bool.or_eq_true, List.contains_iff_mem] at honward
      have hnext := @ih _ (if Language.skipsOn (lang.edgeAt p.left b) then pos.push c else s₁)
        (if Language.skipsOn (lang.edgeAt p.right b) then pos.push c else s₂)
        (mark (lang.acceptsAt p.left) pos f₁) (mark (lang.acceptsAt p.right) pos f₂) (pos.push c)
        honward ?_
      · rwa [hleft, hright]
      · have harrived := hfound.meet (lang.acceptsAt p.left) (lang.acceptsAt p.right) pos
        refine ⟨harrived.left, harrived.right, harrived.together, fun haligned => ?_⟩
        simp only [Language.onward, Bool.and_eq_true, beq_iff_eq] at haligned
        have hstart : s₁ = s₂ := hfound.aligned haligned.1
        simp only [hstart, haligned.2]

/-! ## Reading in accord -/

/-- What a run has found, and where it begins. -/
abbrev find (r : Scan) : Find := (r.start, r.found)

/-- What is read is found from the state in which it is read or from that of recovery. -/
theorem find_of_read {src : Source} {state : ParseState} {pos : Extent} {t : Symbol}
    {start stop : Extent} (h : (read lang src state pos).1 = .token t start stop) :
    ∃ s, (s = state ∨ s = ParseState.recovering)
      ∧ find (scan lang src (lang.lexState s) pos) = (start, some (t, stop)) := by
  rw [read] at h
  simp only at h
  split at h
  · next symbol stop' hfound =>
    obtain ⟨rfl, rfl, rfl⟩ := Reading.token.inj h
    exact ⟨state, .inl rfl, by rw [find, hfound]⟩
  · have hscan : (if state = ParseState.recovering then scan lang src (lang.lexState state) pos
        else scan lang src (lang.lexState ParseState.recovering) pos)
        = scan lang src (lang.lexState ParseState.recovering) pos := by
      split
      · next hstate => rw [hstate]
      · rfl
    rw [hscan] at h
    split at h
    · next symbol stop' hfound =>
      obtain ⟨rfl, rfl, rfl⟩ := Reading.token.inj h
      exact ⟨ParseState.recovering, .inr rfl, by rw [find, hfound]⟩
    · obtain ⟨s, hs⟩ := @beginSkip_garbage lang src
        (scan lang src (lang.lexState ParseState.recovering) pos)
        (max ((scan lang src (lang.lexState state) pos).stop.bytes + 1)
          ((scan lang src (lang.lexState ParseState.recovering) pos).stop.bytes + 1))
      rw [hs] at h
      simp at h

end Lexer

namespace Language

variable {lang : Language} {d : Accord}

/-- What is read from any state is in accord with what is read from that of recovery. -/
structure Accordant (lang : Language) (d : Accord) : Prop where
  scan : ∀ src state pos, Lexer.InAccord d
    (Lexer.find (Lexer.scan lang src (lang.lexState ParseState.recovering) pos))
    (Lexer.find (Lexer.scan lang src (lang.lexState state) pos))

theorem accordant_of_isAccordant (h : lang.isAccordant d = true) : lang.Accordant d := by
  generalize hps : lang.courses d 10000 ((0 :: lang.readingStates).map lang.outset) [] = ps
  rw [isAccordant, hps, startInAccord, Bool.and_eq_true, List.all_eq_true] at h
  refine ⟨fun src state pos => ?_⟩
  have hstart := h.2 _ (mem_readingStates state)
  rw [Bool.or_eq_true, List.contains_iff_mem] at hstart
  have hrun : ∀ rest start pos, Lexer.InAccord d
      (Lexer.find (Lexer.run lang (lang.lexState ParseState.recovering) rest start pos none))
      (Lexer.find (Lexer.run lang (lang.lexState state) rest start pos none)) :=
    fun rest start pos => Lexer.inAccord_goOn h.1 rest pos hstart ⟨rfl, rfl, fun _ => rfl, fun _ => rfl⟩
  rw [Lexer.scan, Lexer.scan]
  split
  · split
    · exact hrun _ _ _
    · exact hrun _ _ _
  · exact hrun _ _ _

/-- **A token that is read is in accord with what is read from the state of recovery.** -/
theorem Accordant.read (h : lang.Accordant d) {src : Source} {state : ParseState} {pos : Extent}
    {t : Symbol} {start stop : Extent}
    (hread : (Lexer.read lang src state pos).1 = .token t start stop) :
    Lexer.InAccord d (Lexer.find (Lexer.scan lang src (lang.lexState ParseState.recovering) pos))
      (start, some (t, stop)) := by
  obtain ⟨s, -, hfind⟩ := Lexer.find_of_read hread
  exact hfind ▸ h.scan src s pos

end Language

namespace Harneet

/-- The symbol with a name. -/
def symbolNamed (name : String) : Symbol :=
  ((List.range language.symbols.size).find? fun s => language.symbolName s == name).getD
    Symbol.error

/-- The line break that separates is only read where it counts.  Where no number may begin a minus
sign is an operator, and where nothing is assigned to, no operator is read together with `=`. -/
def accord : Accord where
  anywhere := [symbolNamed "struct_type_token1"]
  instead := [("number", "-"), ("float", "-"), (":=", ":"), ("+=", "+"), ("-=", "-"), ("*=", "*"),
    ("/=", "/"), ("%=", "%")].map fun x => (symbolNamed x.1, symbolNamed x.2)

set_option maxRecDepth 100000 in
/-- **In Harneet it hardly matters from which state a token is read.** -/
theorem accordant : language.Accordant accord :=
  Language.accordant_of_isAccordant (by decide +kernel)

end Harneet

end SyntaxKit
