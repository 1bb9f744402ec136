import Mathlib.Data.List.TakeDrop
import Mathlib.Data.List.TakeWhile
import SyntaxKit.Query.Basic

/-!
# The names of captures

The captures of a query are named by what the reader has read as names, so their names consist of letters,
digits and the few marks that stand inside names.  `Reading.Keeps` says of a part of the reader that
it keeps all captures named in this way and gives a result of some kind; the reader as a whole is put
together from such parts.
-/

namespace SyntaxKit

namespace Query

namespace Reading

/-- Whether only characters of names stand in a text. -/
def IsName (name : List Char) : Prop := ∀ c ∈ name, continuesName c = true

/-- All captures so far have names. -/
def Named (r : Cursor) : Prop := ∀ name ∈ r.captures, IsName name.toList

/-- A computation that keeps all captures named and gives a result of some kind, if it gives one. -/
def Keeps {α : Type} (m : Reading α) (kind : α → Prop) : Prop :=
  ∀ r a r', Named r → m r = .ok (a, r') → Named r' ∧ kind a

section Parts

variable {α β : Type}

theorem keeps_pure {a : α} {kind : α → Prop} (h : kind a) : Keeps (pure a) kind := by
  intro r a' r' hr heq
  obtain ⟨rfl, rfl⟩ := Prod.mk.inj (Except.ok.inj heq)
  exact ⟨hr, h⟩

theorem keeps_return (a : α) : Keeps (pure a) fun _ => True := by
  intro r a' r' hr heq
  obtain ⟨-, rfl⟩ := Prod.mk.inj (Except.ok.inj heq)
  exact ⟨hr, trivial⟩

theorem keeps_bind {m : Reading α} {f : α → Reading β} {middle : α → Prop} {kind : β → Prop}
    (hm : Keeps m middle) (hf : ∀ a, middle a → Keeps (f a) kind) : Keeps (m >>= f) kind := by
  intro r b r' hr heq
  have hsplit : (m r >>= fun x => f x.1 x.2) = .ok (b, r') := heq
  cases hfirst : m r with
  | error e =>
    rw [hfirst] at hsplit
    cases hsplit
  | ok x =>
    obtain ⟨a, mid⟩ := x
    rw [hfirst] at hsplit
    obtain ⟨hmid, ha⟩ := hm r a mid hr hfirst
    exact hf a ha mid b r' hmid hsplit

theorem keeps_failAt (cause : QueryError.Cause) (offset : Nat) (kind : α → Prop) :
    Keeps (failAt cause offset) kind := by
  intro r a r' _ heq
  cases heq

/-- What leads from named captures to named ones keeps them named. -/
theorem keeps_modifyGet_of_named {f : Cursor → α × Cursor} {kind : α → Prop}
    (h : ∀ r, Named r → Named (f r).2) (hkind : ∀ r, kind (f r).1) : Keeps (modifyGet f) kind := by
  intro r a r' hr heq
  obtain ⟨rfl, rfl⟩ := Prod.mk.inj (Except.ok.inj heq)
  exact ⟨h r hr, hkind r⟩

/-- What leaves the captures alone keeps them named. -/
theorem keeps_modifyGet {f : Cursor → α × Cursor} {kind : α → Prop}
    (h : ∀ r, (f r).2.captures = r.captures) (hkind : ∀ r, kind (f r).1) :
    Keeps (modifyGet f) kind := by
  refine keeps_modifyGet_of_named (fun r hr => ?_) hkind
  rw [Named, h r]
  exact hr

theorem keeps_modify {f : Cursor → Cursor} (h : ∀ r, (f r).captures = r.captures) :
    Keeps (modify f) fun _ => True := keeps_modifyGet h fun _ => trivial

theorem keeps_get : Keeps get Named := by
  intro r a r' hr heq
  obtain ⟨rfl, rfl⟩ := Prod.mk.inj (Except.ok.inj heq)
  exact ⟨hr, hr⟩

theorem keeps_set {r : Cursor} (h : Named r) : Keeps (set r) fun _ => True := by
  intro r' a r'' _ heq
  obtain ⟨-, rfl⟩ := Prod.mk.inj (Except.ok.inj heq)
  exact ⟨h, trivial⟩

end Parts

/-! ## Moving the cursor -/

theorem keeps_peek : Keeps peek fun _ => True :=
  keeps_bind keeps_get fun _ _ => keeps_return _

theorem keeps_offset : Keeps offset fun _ => True :=
  keeps_bind keeps_get fun _ _ => keeps_return _

theorem keeps_fail {α : Type} (kind : α → Prop) : Keeps fail kind :=
  keeps_bind keeps_offset fun _ _ => keeps_failAt _ _ _

theorem keeps_skip : Keeps skip fun _ => True := by
  refine keeps_modify fun r => ?_
  split <;> rfl

theorem keeps_takeWhile (p : Char → Bool) : Keeps (takeWhile p) fun taken => ∀ c ∈ taken, p c = true := by
  refine keeps_modifyGet (fun _ => rfl) fun r c hc => ?_
  simp only [List.span_eq_takeWhile_dropWhile] at hc
  exact List.mem_takeWhile_imp hc

theorem keeps_skipBlanks (fuel : Nat) : Keeps (skipBlanks fuel) fun _ => True := by
  induction fuel with
  | zero => exact keeps_return _
  | succ fuel ih =>
    rw [skipBlanks]
    refine keeps_bind (keeps_takeWhile _) fun _ _ => keeps_bind keeps_peek fun _ _ => ?_
    split
    · exact keeps_bind (keeps_takeWhile _) fun _ _ => ih
    · exact keeps_return _

theorem keeps_bound : Keeps bound fun _ => True :=
  keeps_bind keeps_get fun _ _ => keeps_return _

theorem keeps_blanks : Keeps blanks fun _ => True :=
  keeps_bind keeps_bound fun _ _ => keeps_skipBlanks _

/-- What is read as a name is one. -/
theorem keeps_name : Keeps name? fun name => ∀ taken, name = some taken → IsName taken := by
  refine keeps_bind keeps_peek fun _ _ => ?_
  split
  · split
    · refine keeps_bind (keeps_takeWhile _) fun taken htaken => keeps_pure ?_
      rintro _ ⟨⟩
      exact htaken
    · exact keeps_pure (by simp)
  · exact keeps_pure (by simp)

theorem keeps_string : Keeps string fun _ => True := by
  refine keeps_bind keeps_get fun r hr => ?_
  split
  · exact keeps_bind (keeps_set hr) fun _ _ => keeps_return _
  · exact keeps_fail _

/-- A capture is given a number under its name. -/
theorem keeps_captureIndex {name : List Char} (h : IsName name) :
    Keeps (captureIndex (String.ofList name)) fun _ => True := by
  refine keeps_modifyGet_of_named (fun r hr => ?_) fun _ => trivial
  split
  · exact hr
  · refine List.forall_mem_append.mpr ⟨hr, fun other hother => ?_⟩
    obtain rfl := List.mem_singleton.mp hother
    rw [String.toList_ofList]
    exact h

theorem keeps_countStep : Keeps countStep fun _ => True := keeps_modify fun _ => rfl

/-! ## Conditions -/

theorem keeps_arguments (fuel : Nat) : ∀ seen, Keeps (arguments fuel seen) fun _ => True := by
  induction fuel with
  | zero => exact fun _ => keeps_fail _
  | succ fuel ih =>
    intro seen
    rw [arguments]
    refine keeps_bind keeps_peek fun _ _ => ?_
    split
    · exact keeps_bind keeps_skip fun _ _ => keeps_bind keeps_blanks fun _ _ => keeps_return _
    · refine keeps_bind keeps_skip fun _ _ => keeps_bind keeps_offset fun _ _ =>
        keeps_bind keeps_name fun _ _ => ?_
      split
      · exact keeps_fail _
      · refine keeps_bind keeps_get fun _ _ => ?_
        split
        · exact keeps_failAt _ _ _
        · exact keeps_bind keeps_blanks fun _ _ => ih _
    · exact keeps_bind keeps_string fun _ _ => keeps_bind keeps_blanks fun _ _ => ih _
    · refine keeps_bind keeps_name fun _ _ => ?_
      split
      · exact keeps_fail _
      · exact keeps_bind keeps_blanks fun _ _ => ih _

theorem keeps_clause : Keeps clause fun _ => True := by
  refine keeps_bind keeps_name fun _ _ => ?_
  split
  · exact keeps_fail _
  · refine keeps_bind keeps_peek fun _ _ => ?_
    split
    · have hrest : ∀ name c, Keeps (do
          skip
          blanks
          let args ← arguments (← bound) []
          modify fun r => { r with clauses := ⟨String.ofList (name ++ [c]), args⟩ :: r.clauses })
          fun _ => True := fun name c =>
        keeps_bind keeps_skip fun _ _ => keeps_bind keeps_blanks fun _ _ =>
          keeps_bind keeps_bound fun _ _ => keeps_bind (keeps_arguments _ _) fun _ _ =>
            keeps_modify fun _ => rfl
      split
      · exact keeps_bind (keeps_fail fun _ => True) fun _ _ => hrest _ _
      · exact hrest _ _
    · exact keeps_fail _

/-! ## Patterns -/

variable (lang : Language)

theorem keeps_kind (name : List Char) (named : Bool) (start : Nat) :
    Keeps (kind lang name named start) fun _ => True := by
  rw [kind]
  split
  · exact keeps_return _
  · exact keeps_failAt _ _ _

theorem keeps_missingTest : Keeps (missingTest lang) fun _ => True := by
  refine keeps_bind keeps_blanks fun _ _ => keeps_bind keeps_offset fun _ _ =>
    keeps_bind keeps_peek fun _ _ => ?_
  split
  · exact keeps_bind keeps_string fun _ _ => keeps_bind (keeps_kind lang _ _ _) fun _ _ =>
      keeps_return _
  · exact keeps_return _
  · refine keeps_bind keeps_name fun _ _ => ?_
    split
    · exact keeps_bind (keeps_kind lang _ _ _) fun _ _ => keeps_return _
    · exact keeps_fail _

theorem keeps_nodeTest : Keeps (nodeTest lang) fun _ => True := by
  refine keeps_bind keeps_offset fun _ _ => keeps_bind keeps_name fun _ _ => ?_
  split
  · exact keeps_fail _
  · have hrest : ∀ (start : Nat) (test : NodeTest), Keeps (do
        if (← peek) == some '/' then failAt .impossible (start - 1)
        return test) fun _ => True := by
      intro start test
      refine keeps_bind keeps_peek fun _ _ => ?_
      split
      · exact keeps_bind (keeps_failAt _ _ fun _ => True) fun _ _ => keeps_return _
      · exact keeps_return _
    split
    · exact keeps_bind (keeps_return _) fun _ _ => hrest _ _
    · split
      · exact keeps_bind (keeps_missingTest lang) fun _ _ => hrest _ _
      · exact keeps_bind (keeps_kind lang _ _ _) fun _ _ => keeps_bind (keeps_return _)
          fun _ _ => hrest _ _

theorem keeps_absentField : Keeps (absentField lang) fun _ => True := by
  refine keeps_bind keeps_blanks fun _ _ => keeps_bind keeps_offset fun _ _ =>
    keeps_bind keeps_name fun _ _ => ?_
  split
  · exact keeps_fail _
  · refine keeps_bind keeps_blanks fun _ _ => ?_
    dsimp only
    split
    · exact keeps_return _
    · exact keeps_failAt _ _ _

/-- Only here a capture may get a number. -/
theorem keeps_suffixes (fuel : Nat) : ∀ seen, Keeps (suffixes fuel seen) fun _ => True := by
  induction fuel with
  | zero => exact fun _ => keeps_return _
  | succ fuel ih =>
    intro seen
    rw [suffixes]
    refine keeps_bind keeps_peek fun _ _ => ?_
    split
    · exact keeps_bind keeps_skip fun _ _ => keeps_bind keeps_blanks fun _ _ =>
        keeps_bind keeps_countStep fun _ _ => ih _
    · exact keeps_bind keeps_skip fun _ _ => keeps_bind keeps_blanks fun _ _ =>
        keeps_bind keeps_countStep fun _ _ => ih _
    · exact keeps_bind keeps_skip fun _ _ => keeps_bind keeps_blanks fun _ _ => ih _
    · refine keeps_bind keeps_skip fun _ _ => keeps_bind keeps_name fun _ hname => ?_
      split
      · exact keeps_fail _
      · next name =>
        exact keeps_bind keeps_blanks fun _ _ =>
          keeps_bind (keeps_captureIndex (hname name rfl)) fun _ _ => ih _
    · exact keeps_return _

theorem keeps_finish : Keeps finish fun _ => True :=
  keeps_bind keeps_blanks fun _ _ => keeps_bind keeps_bound fun _ _ => keeps_suffixes _ _

theorem keeps_anchor : Keeps anchor fun _ => True := by
  refine keeps_bind keeps_peek fun _ _ => ?_
  split
  · exact keeps_bind keeps_skip fun _ _ => keeps_bind keeps_blanks fun _ _ => keeps_return _
  · exact keeps_return _

/-- The parts of the reader that read patterns, with some fuel. -/
structure KeepsPatterns (fuel : Nat) : Prop where
  pattern : Keeps (pattern lang fuel) fun _ => True
  branchList : ∀ seen, Keeps (branchList lang fuel seen) fun _ => True
  memberList : ∀ seen, Keeps (memberList lang fuel seen) fun _ => True
  childList : ∀ steps hasChild absent seen,
    Keeps (childList lang fuel steps hasChild absent seen) fun _ => True

variable {lang}

/-- What is read behind the name of a field keeps the captures named. -/
theorem KeepsPatterns.fieldPattern {fuel : Nat} (ih : KeepsPatterns lang fuel) (position : Nat)
    (name : String) : Keeps (do
      skip
      blanks
      match ← Reading.pattern lang fuel with
      | none => fail
      | some inner =>
        if lang.hasField name then
          let _ ← finish
          return some (.field position name inner)
        else failAt .unknownField position : Reading (Option Pattern)) fun _ => True := by
  refine keeps_bind keeps_skip fun _ _ => keeps_bind keeps_blanks fun _ _ =>
    keeps_bind ih.pattern fun _ _ => ?_
  split
  · exact keeps_fail _
  · split
    · exact keeps_bind keeps_finish fun _ _ => keeps_return _
    · exact keeps_failAt _ _ _

theorem KeepsPatterns.pattern_succ {fuel : Nat} (ih : KeepsPatterns lang fuel) :
    Keeps (Reading.pattern lang (fuel + 1)) fun _ => True := by
  rw [Reading.pattern]
  refine keeps_bind keeps_offset fun position _ => keeps_bind keeps_peek fun _ _ => ?_
  split
  · exact keeps_return _
  · exact keeps_return _
  · exact keeps_bind keeps_skip fun _ _ => keeps_bind keeps_blanks fun _ _ =>
      keeps_bind (ih.branchList _) fun _ _ => keeps_bind keeps_finish fun _ _ => keeps_return _
  · refine keeps_bind keeps_skip fun _ _ => keeps_bind keeps_blanks fun _ _ =>
      keeps_bind keeps_peek fun _ _ => ?_
    have hgroup : Keeps (do
        let members ← Reading.memberList lang fuel []
        return some (.group position members (← finish)) : Reading (Option Pattern)) fun _ => True :=
      keeps_bind (ih.memberList _) fun _ _ => keeps_bind keeps_finish fun _ _ => keeps_return _
    have hcondition : Keeps (do
        skip
        clause
        return some (.condition position) : Reading (Option Pattern)) fun _ => True :=
      keeps_bind keeps_skip fun _ _ => keeps_bind keeps_clause fun _ _ => keeps_return _
    split
    · exact hgroup
    · exact hgroup
    · exact hgroup
    · exact hcondition
    · exact hcondition
    · exact keeps_bind keeps_get fun _ _ => keeps_bind (keeps_nodeTest lang) fun _ _ =>
        keeps_bind keeps_countStep fun _ _ => keeps_bind keeps_blanks fun _ _ =>
          keeps_bind (ih.childList _ _ _ _) fun _ _ => keeps_bind keeps_finish fun _ _ =>
            keeps_return _
  · exact keeps_bind keeps_skip fun _ _ => keeps_bind keeps_countStep fun _ _ =>
      keeps_bind keeps_finish fun _ _ => keeps_return _
  · exact keeps_bind keeps_string fun _ _ => keeps_bind (keeps_kind lang _ _ _) fun _ _ =>
      keeps_bind keeps_countStep fun _ _ => keeps_bind keeps_finish fun _ _ => keeps_return _
  · refine keeps_bind keeps_name fun _ hname => ?_
    split
    · exact keeps_fail _
    · next name =>
      have hfield := ih.fieldPattern position (String.ofList name)
      refine keeps_bind keeps_blanks fun _ _ => keeps_bind keeps_peek fun _ _ => ?_
      split
      · exact keeps_bind (keeps_failAt _ _ fun _ => True) fun _ _ => hfield
      · exact hfield

theorem KeepsPatterns.branchList_succ {fuel : Nat} (ih : KeepsPatterns lang fuel)
    (seen : List Pattern) : Keeps (Reading.branchList lang (fuel + 1) seen) fun _ => True := by
  rw [Reading.branchList]
  refine keeps_bind ih.pattern fun _ _ => ?_
  split
  · exact keeps_bind keeps_countStep fun _ _ => ih.branchList _
  · refine keeps_bind keeps_peek fun _ _ => ?_
    split
    · exact keeps_bind keeps_skip fun _ _ => keeps_bind (keeps_modify fun _ => rfl) fun _ _ =>
        keeps_return _
    · exact keeps_fail _

theorem KeepsPatterns.memberList_succ {fuel : Nat} (ih : KeepsPatterns lang fuel)
    (seen : List Pattern) : Keeps (Reading.memberList lang (fuel + 1) seen) fun _ => True := by
  rw [Reading.memberList]
  refine keeps_bind keeps_anchor fun _ _ => keeps_bind ih.pattern fun _ _ => ?_
  split
  · exact ih.memberList _
  · refine keeps_bind keeps_peek fun _ _ => ?_
    split
    · exact keeps_bind keeps_skip fun _ _ => keeps_return _
    · exact keeps_fail _

theorem KeepsPatterns.childList_succ {fuel : Nat} (ih : KeepsPatterns lang fuel) (steps : Nat)
    (hasChild : Bool) (absent : List String) (seen : List Pattern) :
    Keeps (Reading.childList lang (fuel + 1) steps hasChild absent seen) fun _ => True := by
  rw [Reading.childList]
  refine keeps_bind keeps_peek fun _ _ => ?_
  split
  · exact keeps_bind keeps_skip fun _ _ => keeps_bind (keeps_absentField lang) fun _ _ =>
      ih.childList _ _ _ _
  · refine keeps_bind keeps_anchor fun _ _ => keeps_bind ih.pattern fun _ _ => ?_
    split
    · exact ih.childList _ _ _ _
    · have hend : ∀ anchored : Bool, Keeps (do
          skip
          return (absent, seen.reverse, anchored)) fun _ => True := fun _ =>
        keeps_bind keeps_skip fun _ _ => keeps_return _
      refine keeps_bind keeps_peek fun _ _ => ?_
      split
      · exact keeps_bind (keeps_fail fun _ => True) fun _ _ => hend _
      · exact hend _

theorem keepsPatterns (fuel : Nat) : KeepsPatterns lang fuel := by
  induction fuel with
  | zero => exact ⟨keeps_fail _, fun _ => keeps_fail _, fun _ => keeps_fail _,
      fun _ _ _ _ => keeps_fail _⟩
  | succ fuel ih => exact ⟨ih.pattern_succ, ih.branchList_succ, ih.memberList_succ, ih.childList_succ⟩

/-- What is read of a pattern with its conditions keeps the captures named, if the rest does. -/
theorem keeps_entry {fuel : Nat} (seen : List Entry)
    (hrest : ∀ seen, Keeps (entries lang fuel seen) fun _ => True) : Keeps (do
      let position ← offset
      modify fun r => { r with clauses := [] }
      match ← pattern lang (← bound) with
      | none => fail
      | some p =>
        countStep
        let clauses := (← get).clauses.reverse
        entries lang fuel (⟨position, p, clauses⟩ :: seen)) fun _ => True := by
  refine keeps_bind keeps_offset fun _ _ => keeps_bind (keeps_modify fun _ => rfl) fun _ _ =>
    keeps_bind keeps_bound fun _ _ => keeps_bind (keepsPatterns _).pattern fun _ _ => ?_
  split
  · exact keeps_fail _
  · exact keeps_bind keeps_countStep fun _ _ => keeps_bind keeps_get fun _ _ => hrest _

theorem keeps_entries (fuel : Nat) : ∀ seen, Keeps (entries lang fuel seen) fun _ => True := by
  induction fuel with
  | zero => exact fun _ => keeps_fail _
  | succ fuel ih =>
    intro seen
    rw [entries]
    refine keeps_bind keeps_get fun _ _ => ?_
    split
    · exact keeps_return _
    · exact keeps_entry seen ih

end Reading

variable {lang : Language} {text : List Char}

/-- **The captures of a query that is read are named by names.** -/
theorem isName_of_read {entries : List Reading.Entry} {captures : List String}
    (h : read lang text = .ok (entries, captures)) :
    ∀ name ∈ captures, Reading.IsName name.toList := by
  rw [read] at h
  split at h
  · next es r heq =>
    obtain ⟨rfl, rfl⟩ := Prod.mk.inj (Except.ok.inj h)
    have hkeeps : Reading.Keeps (do
        Reading.blanks
        Reading.entries lang (text.length + 1) []) fun _ => True :=
      Reading.keeps_bind Reading.keeps_blanks fun _ _ => Reading.keeps_entries _ _
    exact (hkeeps _ _ _ (fun name hname => by simp at hname) heq).1
  · simp at h

/-- **So are those of a query that compiles.** -/
theorem isName_captureNames {q : Query} (h : compile lang text = .ok q) (i : Nat) :
    Reading.IsName (q.captureNames.getD i "").toList := by
  have hnames : ∀ name ∈ q.captureNames, Reading.IsName name.toList := by
    rw [compile, compileWith] at h
    cases hread : read lang text with
    | error e =>
      rw [hread] at h
      cases h
    | ok found =>
      obtain ⟨entries, captures⟩ := found
      have hcaptures := isName_of_read hread
      rw [hread] at h
      simp only [bind, Except.bind] at h
      split at h
      · cases h
      · next program _ =>
        cases hconditions : entries.mapM (resolveEntry text captures) with
        | error e =>
          rw [hconditions] at h
          cases h
        | ok conditions =>
          rw [hconditions] at h
          obtain rfl := Except.ok.inj h
          simpa using hcaptures
  rw [Array.getD_eq_getD_getElem?]
  cases hi : q.captureNames[i]? with
  | none => simp [Reading.IsName]
  | some name => exact hnames name (Array.mem_of_getElem? hi)

end Query

end SyntaxKit
