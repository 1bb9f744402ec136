import SyntaxKit.Proofs.Files.Entries

/-!
# Removing files

A path leads nowhere once the file or link at it is removed, and taking an entry away brings no path to
an end that had none: whatever path is followed afterwards, it leads where it led before or nowhere
(`FileSystem.lookup_erase`).  This holds with links on the way, also if one of them is what is taken
away; then the path leads through it (`FileSystem.LeadsThrough`).
-/

namespace SyntaxKit

namespace FileSystem

variable {fs fs' : FileSystem} {workingDirectory place r : Place} {p q : Path} {followLast : Bool}

/-! ## Taking an entry away -/

/-- A path that is followed where an entry has been taken away comes to what it came to before, or to
nothing. -/
def Narrowed (fs : FileSystem) (after before : Except FileError Place) : Prop :=
  after = before ∨ after = .error .notFound ∨ ∃ q, after = .ok q ∧ fs.entry? q = none

/-- From a place at which there is nothing, steps lead to nothing. -/
theorem narrowed_of_none {onLink : Place → Path → List Move → Except FileError Place}
    {here : Place} (hhere : fs.entry? here = none) (ms : List Move)
    (before : Except FileError Place) : Narrowed fs (follow fs followLast onLink here ms) before := by
  cases ms with
  | nil => exact .inr (.inr ⟨here, rfl, hhere⟩)
  | cons m ms => exact .inr (.inl (by rw [follow_cons, obstacle?, hhere]))

/-- What is in the way of a step elsewhere stays there. -/
theorem obstacle?_erase {here : Place} (hroot : place ≠ []) (hne : here ≠ place) (m : Move) :
    obstacle? (fs.erase place) here m = fs.obstacle? here m := by
  rw [obstacle?, obstacle?, entry?_erase_of_ne hroot hne]
  rfl

theorem linkAhead?_erase {here : Place} {m : Move} (hroot : place ≠ [])
    (hne : stepFrom here m ≠ place) :
    linkAhead? (fs.erase place) here m = fs.linkAhead? here m :=
  linkAhead?_congr fun target => by rw [entry?_erase_of_ne hroot hne]

theorem linkAhead?_of_none {here : Place} {m : Move} (h : fs.entry? (stepFrom here m) = none) :
    fs.linkAhead? here m = none :=
  Option.eq_none_iff_forall_ne_some.mpr fun target htarget => by
    simp [(linkAhead?_eq_some.mp htarget).2] at h

/-- A step that comes to no link comes to none where an entry has been taken away. -/
theorem linkAhead?_erase_of_none {here : Place} {m : Move} (hroot : place ≠ [])
    (h : fs.linkAhead? here m = none) : linkAhead? (fs.erase place) here m = none := by
  by_cases hthere : stepFrom here m = place
  · exact linkAhead?_of_none (by rw [entry?_erase hroot, if_pos hthere])
  · rw [linkAhead?_erase hroot hthere, h]

theorem follow_erase (hroot : place ≠ [])
    {onLink onLink' : Place → Path → List Move → Except FileError Place}
    (honLink : ∀ here target ms, Narrowed (fs.erase place) (onLink' here target ms)
      (onLink here target ms)) (here : Place) (ms : List Move) :
    Narrowed (fs.erase place) (follow (fs.erase place) followLast onLink' here ms)
      (follow fs followLast onLink here ms) := by
  induction ms generalizing here with
  | nil => exact .inl rfl
  | cons m ms ih =>
    by_cases hhere : here = place
    · exact narrowed_of_none (by rw [entry?_erase hroot, if_pos hhere]) _ _
    · rw [follow_cons, follow_cons, obstacle?_erase hroot hhere]
      split
      · exact .inl rfl
      · by_cases hthere : stepFrom here m = place
        · have hnone : entry? (fs.erase place) (stepFrom here m) = none := by
            rw [entry?_erase hroot, if_pos hthere]
          rw [linkAhead?_of_none hnone]
          exact narrowed_of_none hnone _ _
        · rw [linkAhead?_erase hroot hthere]
          split
          · split
            · exact .inl rfl
            · exact honLink _ _ _
          · exact ih _

theorem followLinks_erase (hroot : place ≠ []) (links : Nat) (here : Place) (ms : List Move) :
    Narrowed (fs.erase place) (followLinks (fs.erase place) followLast links here ms)
      (followLinks fs followLast links here ms) := by
  induction links generalizing here ms with
  | zero => exact follow_erase hroot (fun _ _ _ => .inl rfl) here ms
  | succ links ih =>
    refine follow_erase hroot (fun here target ms => ?_) here ms
    split
    · exact .inl rfl
    · exact ih _ _

/-- **Where an entry has been taken away, a path leads where it led before, or nowhere.** -/
theorem lookup_erase (fs : FileSystem) (workingDirectory : Place) (p : Path) (followLast : Bool)
    (hroot : place ≠ []) :
    (fs.erase place).lookup workingDirectory p followLast = fs.lookup workingDirectory p followLast
      ∨ (fs.erase place).lookup workingDirectory p followLast = .error .notFound := by
  have hlocate : Narrowed (fs.erase place) ((fs.erase place).locate workingDirectory p followLast)
      (fs.locate workingDirectory p followLast) := by
    rw [locate, locate]
    split
    · exact .inl rfl
    · exact followLinks_erase hroot _ _ _
  rw [lookup, lookup]
  rcases hlocate with h | h | ⟨q, h, hnone⟩
  · rw [h]
    cases fs.locate workingDirectory p followLast with
    | error e => exact .inl rfl
    | ok q =>
      simp only [entry?_erase hroot]
      by_cases hq : q = place
      · exact .inr (by rw [if_pos hq])
      · exact .inl (by rw [if_neg hq])
  · exact .inr (by rw [h])
  · exact .inr (by simp only [h, hnone])

/-! ## On the way of a path -/

/-- A path leads through the entry at a place: it leads nowhere without it. -/
def LeadsThrough (fs : FileSystem) (workingDirectory : Place) (p : Path) (place : Place) : Prop :=
  (fs.erase place).lookup workingDirectory p false = .error .notFound

/-- Two entries have been taken away, and a path comes to what it comes to where only one of them has,
if it comes to something without the first and without the second. -/
def Joint (fs : FileSystem) (place r : Place) (one other both : Except FileError Place) : Prop :=
  ∀ q q', one = .ok q → entry? (fs.erase place) q ≠ none → other = .ok q' →
    entry? (fs.erase r) q' ≠ none → both = .ok q ∧ q = q'

theorem joint_follow (hplace : place ≠ []) (hr : r ≠ [])
    {one other both : Place → Path → List Move → Except FileError Place}
    (honLink : ∀ here target ms,
      Joint fs place r (one here target ms) (other here target ms) (both here target ms))
    (here : Place) (ms : List Move) :
    Joint fs place r (follow (fs.erase place) followLast one here ms)
      (follow (fs.erase r) followLast other here ms)
      (follow ((fs.erase place).erase r) followLast both here ms) := by
  induction ms generalizing here with
  | nil =>
    rintro q q' hq - hq' -
    exact ⟨hq, Except.ok.inj (hq.symm.trans hq')⟩
  | cons m ms ih =>
    intro q q' hq hentry hq' hentry'
    have hone := obstacle?_of_follow hq
    have hother := obstacle?_of_follow hq'
    have hboth : obstacle? ((fs.erase place).erase r) here m = none := by
      have hhere := (obstacle?_eq_none.mp hother).1
      rw [obstacle?_erase hr (entry?_of_erase hr hhere).1, hone]
    cases hlink : fs.linkAhead? here m with
    | some target =>
      have htarget := (linkAhead?_eq_some.mp hlink).2
      -- the link has not been taken away, or the steps would have led to nothing
      have hne : stepFrom here m ≠ place := by
        intro hthere
        have hnone : entry? (fs.erase place) (stepFrom here m) = none := by
          rw [entry?_erase hplace, if_pos hthere]
        rw [follow_step hone (linkAhead?_of_none hnone)] at hq
        exact entry?_ne_none_of_follow hq hentry hnone
      have hne' : stepFrom here m ≠ r := by
        intro hthere
        have hnone : entry? (fs.erase r) (stepFrom here m) = none := by
          rw [entry?_erase hr, if_pos hthere]
        rw [follow_step hother (linkAhead?_of_none hnone)] at hq'
        exact entry?_ne_none_of_follow hq' hentry' hnone
      have htaken := (linkAhead?_erase hplace hne).trans hlink
      rw [follow_link hone htaken] at hq
      rw [follow_link hother ((linkAhead?_erase hr hne').trans hlink)] at hq'
      rw [follow_link hboth ((linkAhead?_erase hr hne').trans htaken)]
      split at hq
      · next hlast =>
        rw [if_pos hlast] at hq' ⊢
        exact ⟨hq, Except.ok.inj (hq.symm.trans hq')⟩
      · next hlast =>
        rw [if_neg hlast] at hq' ⊢
        exact honLink _ _ _ q q' hq hentry hq' hentry'
    | none =>
      have hfree := linkAhead?_erase_of_none hplace hlink
      rw [follow_step hone hfree] at hq
      rw [follow_step hother (linkAhead?_erase_of_none hr hlink)] at hq'
      rw [follow_step hboth (linkAhead?_erase_of_none hr hfree)]
      exact ih _ q q' hq hentry hq' hentry'

theorem joint_followLinks (hplace : place ≠ []) (hr : r ≠ []) (links : Nat) (here : Place)
    (ms : List Move) :
    Joint fs place r (followLinks (fs.erase place) followLast links here ms)
      (followLinks (fs.erase r) followLast links here ms)
      (followLinks ((fs.erase place).erase r) followLast links here ms) := by
  induction links generalizing here ms with
  | zero => exact joint_follow hplace hr (fun _ _ _ q q' hq => by simp at hq) here ms
  | succ links ih =>
    refine joint_follow hplace hr (fun here target ms => ?_) here ms
    split
    · intro q q' hq
      simp at hq
    · exact ih _ _

/-- **A path that leads somewhere without either of two entries leads there without both.** -/
theorem lookup_erase_erase {found : Place × Entry} (hplace : place ≠ []) (hr : r ≠ [])
    (h : (fs.erase place).lookup workingDirectory p followLast = .ok found)
    (h' : (fs.erase r).lookup workingDirectory p followLast = .ok found) :
    ((fs.erase place).erase r).lookup workingDirectory p followLast = .ok found := by
  obtain ⟨q, e⟩ := found
  obtain ⟨hlocate, hentry⟩ := lookup_eq_ok.mp h
  obtain ⟨hlocate', hentry'⟩ := lookup_eq_ok.mp h'
  refine lookup_eq_ok.mpr ⟨?_, ?_⟩
  · rw [locate] at hlocate hlocate' ⊢
    split
    · next hempty => simp [hempty] at hlocate
    · next hne =>
      rw [if_neg hne] at hlocate hlocate'
      exact (joint_followLinks hplace hr _ _ _ q q hlocate (by simp [hentry]) hlocate'
        (by simp [hentry'])).1
  · rw [entry?_erase_of_ne hr (entry?_of_erase hr hentry').1, hentry]

/-! ## Removing a file or a link -/

/-- At the end of a path there is a file or a link, at the given place. -/
def EndsAt (fs : FileSystem) (workingDirectory : Place) (p : Path) (place : Place) : Prop :=
  ∃ e, fs.lookup workingDirectory p false = .ok (place, e) ∧ e ≠ .directory

namespace EndsAt

theorem ne_root (h : fs.EndsAt workingDirectory p place) : place ≠ [] := by
  obtain ⟨e, hlookup, hdirectory⟩ := h
  have hplace : fs.entry? place ≠ some .directory := by
    rw [entry?_of_lookup hlookup]
    exact fun h => hdirectory (Option.some.inj h)
  exact FileSystem.ne_root hplace

theorem unique {q : Place} (h : fs.EndsAt workingDirectory p place) (h' : fs.EndsAt workingDirectory p q) :
    place = q := by
  obtain ⟨e, hlookup, -⟩ := h
  obtain ⟨e', hlookup', -⟩ := h'
  exact (Prod.mk.inj (Except.ok.inj (hlookup.symm.trans hlookup'))).1

/-- What is at the end of a path after an entry has been taken away was there before, and the path does
not lead through that entry. -/
theorem of_erase {q : Place} (h : (fs.erase place).EndsAt workingDirectory p q)
    (hroot : place ≠ []) :
    fs.EndsAt workingDirectory p q ∧ ¬ fs.LeadsThrough workingDirectory p place := by
  obtain ⟨e, hlookup, hdirectory⟩ := h
  refine ⟨⟨e, ?_, hdirectory⟩, by simp [LeadsThrough, hlookup]⟩
  rcases lookup_erase fs workingDirectory p false hroot with hsame | hnone
  · exact hsame.symm.trans hlookup
  · simp [hnone] at hlookup

theorem erase {q : Place} (h : fs.EndsAt workingDirectory p q) (hroot : place ≠ [])
    (hthrough : ¬ fs.LeadsThrough workingDirectory p place) :
    (fs.erase place).EndsAt workingDirectory p q := by
  obtain ⟨e, hlookup, hdirectory⟩ := h
  refine ⟨e, ?_, hdirectory⟩
  rcases lookup_erase fs workingDirectory p false hroot with hsame | hnone
  · exact hsame.trans hlookup
  · exact absurd hnone hthrough

end EndsAt

/-- A path that leads on without an entry leads through the same other entries as before. -/
theorem leadsThrough_erase {q : Place} (hroot : place ≠ []) (hr : r ≠ [])
    (h : (fs.erase place).EndsAt workingDirectory p q) :
    (fs.erase place).LeadsThrough workingDirectory p r
      ↔ fs.LeadsThrough workingDirectory p r := by
  obtain ⟨e, hlookup, -⟩ := h
  constructor
  · intro hboth
    rcases lookup_erase fs workingDirectory p false hr with hsame | hnone
    · rcases lookup_erase fs workingDirectory p false hroot with hsame' | hnone'
      · have hfound := lookup_erase_erase hroot hr hlookup
          (hsame.trans (hsame'.symm.trans hlookup))
        exact absurd (hboth.symm.trans hfound) (by simp)
      · simp [hnone'] at hlookup
    · exact hnone
  · intro hone
    rw [LeadsThrough, erase_comm]
    rcases lookup_erase (fs.erase r) workingDirectory p false hroot with hsame | hnone
    · exact hsame.trans hone
    · exact hnone

/-- **To remove something is to take away the file or the link at the end of the path**, if that is not
refused. -/
theorem remove_eq_ok : fs.remove workingDirectory p = .ok fs' ↔
    ∃ place, fs.EndsAt workingDirectory p place ∧ fs.host.refusal? place .remove = none
      ∧ fs' = fs.erase place := by
  rw [remove]
  constructor
  · intro h
    split at h
    · simp at h
    · next place e hlookup =>
      split at h
      · simp at h
      · next removed hpermit =>
        obtain ⟨hrefusal, rfl⟩ := permit_eq_ok.mp hpermit
        split at h
        · simp at h
        · next hne => exact ⟨place, ⟨e, hlookup, hne⟩, hrefusal, (Except.ok.inj h).symm⟩
  · rintro ⟨place, ⟨e, hlookup, hdirectory⟩, hrefusal, rfl⟩
    rw [hlookup]
    dsimp only
    rw [permit_eq_ok.mpr ⟨hrefusal, rfl⟩]
    dsimp only
    rw [if_neg hdirectory]

/-- Something cannot be removed if it is not found, if that is refused, or if it is a directory. -/
theorem remove_eq_error {cause : FileError} : fs.remove workingDirectory p = .error cause ↔
    fs.lookup workingDirectory p false = .error cause
      ∨ ∃ place e, fs.lookup workingDirectory p false = .ok (place, e)
        ∧ ((∃ r, fs.host.refusal? place .remove = some r ∧ cause = .refused r)
          ∨ fs.host.refusal? place .remove = none ∧ e = .directory ∧ cause = .isDirectory) := by
  rw [remove]
  cases fs.lookup workingDirectory p false with
  | error e => simp
  | ok found =>
    obtain ⟨place, e⟩ := found
    dsimp only
    cases hrefusal : fs.host.refusal? place .remove with
    | some r => simp [permit, hrefusal, eq_comm]
    | none =>
      by_cases hdirectory : e = .directory <;> simp [permit, hrefusal, hdirectory, eq_comm]

/-- Nothing is found to be removed only where the path leads nowhere. -/
theorem remove_eq_notFound (h : fs.remove workingDirectory p = .error .notFound) :
    fs.lookup workingDirectory p false = .error .notFound := by
  rcases remove_eq_error.mp h with hlookup | ⟨place, e, -, ⟨r, -, hcause⟩ | ⟨-, -, hcause⟩⟩
  · exact hlookup
  · simp at hcause
  · simp at hcause

/-- **What is removed is gone**, the link itself if there was one. -/
theorem lookup_of_remove (h : fs.remove workingDirectory p = .ok fs') :
    fs'.lookup workingDirectory p false = .error .notFound := by
  obtain ⟨place, hend, -, rfl⟩ := remove_eq_ok.mp h
  have hroot := hend.ne_root
  obtain ⟨e, hlookup, -⟩ := hend
  rcases lookup_erase fs workingDirectory p false hroot with hsame | hgone
  · have hentry := entry?_of_lookup (hsame.trans hlookup)
    simp [entry?_erase hroot] at hentry
  · exact hgone

/-- A path that leads nowhere leads nowhere after something has been removed. -/
theorem lookup_remove_of_notFound (h : fs.remove workingDirectory p = .ok fs')
    (hq : fs.lookup workingDirectory q followLast = .error .notFound) :
    fs'.lookup workingDirectory q followLast = .error .notFound := by
  obtain ⟨place, hend, -, rfl⟩ := remove_eq_ok.mp h
  rcases lookup_erase fs workingDirectory q followLast hend.ne_root with hsame | hgone
  · exact hsame.trans hq
  · exact hgone

end FileSystem

end SyntaxKit
