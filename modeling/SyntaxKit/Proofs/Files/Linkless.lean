import SyntaxKit.Proofs.Files.Entries
import SyntaxKit.Proofs.Files.Paths

/-!
# Paths where nothing is a link

In a file system without links a path is followed step by step, and every step changes the place in its
own way, whatever else there is.  So what a name joined to a path leads to is told by the directory
that the path leads to (`FileSystem.locate_join`), and that directory by the components of the path
(`FileSystem.DirectoryAt.congr`).  A directory that may not be searched leads on nowhere
(`FileSystem.locate_eq_refused`).
-/

namespace SyntaxKit

namespace FileSystem

open SyntaxKit.Path

variable {fs : FileSystem} {workingDirectory here place : Place} {p d : Path} {name : Name}
  {followLast : Bool}

/-- Nothing is a link. -/
def Linkless (fs : FileSystem) : Prop := ∀ q target, fs.entry? q ≠ some (.link target)

/-- A file system without links, in which every entry has a name that a path can tell. -/
structure Plain (fs : FileSystem) : Prop where
  linkless : fs.Linkless
  named : ∀ q name, fs.entry? (q ++ [name]) ≠ none → IsName name

theorem plain_of_entries (hlinkless : ∀ q target, (q, Entry.link target) ∉ fs.entries)
    (hnamed : ∀ e ∈ fs.entries, ∀ name ∈ e.1, IsName name) : fs.Plain where
  linkless q target h := by
    have hroot := ne_root (h.trans_ne (by simp))
    rw [entry?_eq_find? hroot] at h
    exact hlinkless q target (mem_of_find? h)
  named q name h := by
    rw [entry?_eq_find? (by simp)] at h
    obtain ⟨e, he⟩ := Option.ne_none_iff_exists'.mp h
    exact hnamed _ (mem_of_find? he) name (by simp)

/-! ## Steps -/

/-- Steps lead from one place to another, and each of them can be taken. -/
def Leads (fs : FileSystem) : Place → List Move → Place → Prop
  | here, [], place => place = here
  | here, m :: ms, place => fs.obstacle? here m = none ∧ Leads fs (stepFrom here m) ms place

theorem leads_cons {m : Move} {ms : List Move} : Leads fs here (m :: ms) place ↔
    fs.obstacle? here m = none ∧ Leads fs (stepFrom here m) ms place := Iff.rfl

theorem leads_append (ms ms' : List Move) :
    Leads fs here (ms ++ ms') place ↔ ∃ q, Leads fs here ms q ∧ Leads fs q ms' place := by
  induction ms generalizing here with
  | nil => simp [Leads]
  | cons m ms ih =>
    rw [List.cons_append, leads_cons, ih]
    simp only [leads_cons, and_assoc, exists_and_left]

/-- Steps lead to one place only. -/
theorem leads_unique {q : Place} {ms : List Move} (h : Leads fs here ms place)
    (h' : Leads fs here ms q) : place = q := by
  induction ms generalizing here with
  | nil => exact Eq.trans h (Eq.symm h')
  | cons m ms ih => exact ih h.2 h'.2

/-- Without links, following steps is to take them one by one. -/
theorem follow_eq_ok (h : fs.Linkless)
    {onLink : Place → Path → List Move → Except FileError Place} (ms : List Move) :
    follow fs followLast onLink here ms = .ok place ↔ Leads fs here ms place := by
  induction ms generalizing here with
  | nil =>
    rw [follow, Except.ok.injEq]
    exact eq_comm
  | cons m ms ih =>
    rw [follow_cons, leads_cons]
    cases fs.obstacle? here m with
    | some e => simp
    | none =>
      have hlink : fs.linkAhead? here m = none := Option.eq_none_iff_forall_ne_some.mpr
        fun target htarget => h _ target (linkAhead?_eq_some.mp htarget).2
      simpa [hlink] using ih

theorem followLinks_eq_ok (h : fs.Linkless) (links : Nat) (ms : List Move) :
    followLinks fs followLast links here ms = .ok place ↔ Leads fs here ms place := by
  cases links with
  | zero => exact follow_eq_ok h ms
  | succ links => exact follow_eq_ok h ms

theorem locate_eq_ok (h : fs.Linkless) :
    fs.locate workingDirectory p followLast = .ok place
      ↔ p.bytes ≠ [] ∧ Leads fs (start workingDirectory p) (moves p) place := by
  rw [locate]
  split
  · next hempty => simp [hempty]
  · next hne => rw [followLinks_eq_ok h]; simp [hne]

/-! ## The directory of a path -/

/-- The steps of a path, but for a slash at its end. -/
def steps (p : Path) : List Move := (split p.bytes).filterMap move?

theorem moves_eq (p : Path) : moves p = steps p ++ if p.endsWithSlash then [.arrive] else [] := rfl

/-- Only a slash at the end stands for no more than to arrive. -/
theorem arrive_notMem_steps (p : Path) : Move.arrive ∉ steps p := by
  rw [steps, List.mem_filterMap]
  rintro ⟨part, -, hpart⟩
  rw [move?] at hpart
  split at hpart
  · simp at hpart
  · split at hpart
    · simp at hpart
    · split at hpart <;> simp at hpart

/-- At a place there is a directory that may be searched. -/
structure Searchable (fs : FileSystem) (place : Place) : Prop where
  directory : fs.entry? place = some .directory
  unbarred : fs.host.refusal? place .search = none

/-- A step is taken from a directory that may be searched, unless it is to arrive there. -/
theorem obstacle?_eq_none_iff {m : Move} (hm : m ≠ .arrive) :
    fs.obstacle? here m = none ↔ fs.Searchable here := by
  rw [obstacle?_eq_none, barrier?, if_neg hm]
  exact ⟨fun h => ⟨h.1, h.2⟩, fun h => ⟨h.directory, h.unbarred⟩⟩

theorem obstacle?_arrive (h : fs.entry? here = some .directory) :
    fs.obstacle? here .arrive = none :=
  obstacle?_eq_none.mpr ⟨h, rfl⟩

/-- The step that a component stands for. -/
def componentMove? : Component → Option Move
  | .root | .current => none
  | .parent => some .up
  | .normal name => some (.enter name)

/-- A path leads to a directory that may be searched, going by its components. -/
def DirectoryAt (fs : FileSystem) (workingDirectory : Place) (d : Path) (place : Place) : Prop :=
  Leads fs (start workingDirectory d) (d.components.filterMap componentMove?) place
    ∧ fs.Searchable place

theorem DirectoryAt.unique {q : Place} (h : DirectoryAt fs workingDirectory d place)
    (h' : DirectoryAt fs workingDirectory d q) : place = q :=
  leads_unique h.1 h'.1

/-- To stay where one is makes no difference on the way to a directory that may be searched. -/
theorem leads_filter (h : fs.Searchable place) {ms : List Move} (hms : Move.arrive ∉ ms) :
    Leads fs here (ms.filter (· ≠ .stay)) place ↔ Leads fs here ms place := by
  induction ms generalizing here with
  | nil => rfl
  | cons m ms ih =>
    rw [List.mem_cons, not_or] at hms
    by_cases hm : m = .stay
    · subst hm
      rw [List.filter_cons_of_neg (by simp), ih hms.2, leads_cons,
        obstacle?_eq_none_iff (Ne.symm hms.1)]
      refine ⟨fun hleads => ⟨?_, hleads⟩, And.right⟩
      cases ms with
      | nil => exact hleads ▸ h
      | cons m ms =>
        rw [List.mem_cons, not_or] at hms
        exact (obstacle?_eq_none_iff (Ne.symm hms.2.1)).mp hleads.1
    · rw [List.filter_cons_of_pos (by simpa using hm), leads_cons, leads_cons, ih hms.2]

/-- A stretch between slashes stands for the same step in both readings of a path, unless to stay. -/
theorem filter_move? (part : List UInt8) :
    (move? part).filter (· ≠ .stay) = (component? part).bind componentMove? := by
  rw [move?, component?]
  split
  · next hempty => simp [hempty]
  · split
    · next hdot => simp [hdot]
    · next hempty hdot =>
      split <;> simp_all [componentMove?]

/-- The steps of a path are those of its components, unless to stay. -/
theorem filter_steps (p : Path) :
    (steps p).filter (· ≠ .stay) = p.components.filterMap componentMove? := by
  have hfront : (if p.isAbsolute then [Component.root]
      else if (split p.bytes).head? == some [dotByte] then [.current] else []).filterMap componentMove?
        = [] := by
    split
    · rfl
    · split <;> rfl
  rw [components, List.filterMap_append, hfront, List.nil_append, List.filterMap_filterMap, steps,
    List.filter_filterMap]
  exact List.filterMap_congr fun part _ => filter_move? part

theorem directoryAt_iff : DirectoryAt fs workingDirectory d place ↔
    Leads fs (start workingDirectory d) (steps d) place ∧ fs.Searchable place := by
  rw [DirectoryAt, ← filter_steps]
  exact and_congr_left fun h => leads_filter h (arrive_notMem_steps d)

/-- Which directory a path leads to is told by its components. -/
theorem DirectoryAt.congr {d' : Path} (h : DirectoryAt fs workingDirectory d place)
    (hd : d'.components = d.components) : DirectoryAt fs workingDirectory d' place := by
  rwa [DirectoryAt, start, isAbsolute_eq, hd, ← isAbsolute_eq, ← start]

/-- A slash at the end of a path makes no difference where there is a directory. -/
theorem lookup_eq_directory_iff (h : fs.Linkless) :
    fs.lookup workingDirectory d followLast = .ok (place, .directory) ↔
      d.bytes ≠ [] ∧ Leads fs (start workingDirectory d) (steps d) place
        ∧ fs.entry? place = some .directory := by
  rw [lookup_eq_ok, locate_eq_ok h, moves_eq, leads_append, and_assoc]
  refine and_congr_right fun _ => and_congr_left fun hplace => ?_
  constructor
  · rintro ⟨q, hq, hslash⟩
    split at hslash
    · obtain rfl : place = q := hslash.2
      exact hq
    · obtain rfl : place = q := hslash
      exact hq
  · intro hleads
    refine ⟨place, hleads, ?_⟩
    split
    · exact ⟨obstacle?_arrive hplace, rfl⟩
    · rfl

/-- A directory that may be searched is looked up by its components. -/
theorem lookup_eq_directory (h : fs.Linkless) (hsearch : fs.host.refusal? place .search = none) :
    fs.lookup workingDirectory d followLast = .ok (place, .directory)
      ↔ d.bytes ≠ [] ∧ DirectoryAt fs workingDirectory d place := by
  rw [lookup_eq_directory_iff h, directoryAt_iff]
  exact and_congr_right fun _ => and_congr_right fun _ =>
    ⟨fun hplace => ⟨hplace, hsearch⟩, Searchable.directory⟩

/-! ## Names joined to a path -/

theorem steps_join (hname : IsName name) : steps (d.join ⟨name⟩) = steps d ++ [.enter name] := by
  obtain ⟨init, hjoin, hd, -⟩ := split_join (d := d) hname.toIsPart
  have henter : move? name = some (.enter name) := by
    rw [move?, if_neg hname.nonempty, if_neg hname.moving, if_neg hname.downward]
  rw [steps, hjoin, List.filterMap_append, List.filterMap_cons, henter, steps]
  rcases hd with hd | hd <;> simp [hd, move?]

theorem start_join (hname : IsName name) :
    start workingDirectory (d.join ⟨name⟩) = start workingDirectory d := by
  rw [start, isAbsolute_join hname.toIsPart, start]

/-- The steps of a path to which a name is joined. -/
theorem moves_join (hname : IsName name) : moves (d.join ⟨name⟩) = steps d ++ [.enter name] := by
  rw [moves_eq, endsWithSlash_join hname.toIsPart, steps_join hname, if_neg Bool.false_ne_true,
    List.append_nil]

/-- **A name joined to a path leads to an entry of the directory that the path leads to.** -/
theorem locate_join (h : fs.Linkless) (hname : IsName name) :
    fs.locate workingDirectory (d.join ⟨name⟩) followLast = .ok place
      ↔ ∃ q, DirectoryAt fs workingDirectory d q ∧ place = q ++ [name] := by
  rw [locate_eq_ok h, moves_join hname, start_join hname, leads_append]
  have hstep (q : Place) : fs.obstacle? q (.enter name) = none ↔ fs.Searchable q :=
    obstacle?_eq_none_iff (by simp)
  simp only [directoryAt_iff, bytes_join_ne_nil hname.toIsPart, Leads, stepFrom, hstep, ne_eq,
    not_false_eq_true, true_and, and_assoc]

/-- If a name joined to the path of a directory leads somewhere, that directory may be searched. -/
theorem directoryAt_of_locate_join {q : Place} (h : fs.Linkless) (hname : IsName name)
    (hd : fs.lookup workingDirectory d true = .ok (q, .directory))
    (hplace : fs.locate workingDirectory (d.join ⟨name⟩) followLast = .ok place) :
    DirectoryAt fs workingDirectory d q ∧ place = q ++ [name] := by
  obtain ⟨q', hq', rfl⟩ := (locate_join h hname).mp hplace
  obtain rfl := leads_unique ((lookup_eq_directory_iff h).mp hd).2.1 (directoryAt_iff.mp hq').1
  exact ⟨hq', rfl⟩

theorem directoryAt_join (hname : IsName name) :
    DirectoryAt fs workingDirectory (d.join ⟨name⟩) place
      ↔ ∃ q, DirectoryAt fs workingDirectory d q ∧ place = q ++ [name] ∧ fs.Searchable place := by
  rw [directoryAt_iff, steps_join hname, start_join hname, leads_append]
  have hstep (q : Place) : fs.obstacle? q (.enter name) = none ↔ fs.Searchable q :=
    obstacle?_eq_none_iff (by simp)
  simp only [directoryAt_iff, Leads, stepFrom, hstep]
  constructor
  · rintro ⟨⟨q, hq, hdir, hplace⟩, hplaceDir⟩
    exact ⟨q, ⟨hq, hdir⟩, hplace, hplaceDir⟩
  · rintro ⟨q, ⟨hq, hdir⟩, hplace, hplaceDir⟩
    exact ⟨⟨q, hq, hdir, hplace⟩, hplaceDir⟩

/-! ## Directories that may not be searched -/

/-- Steps that lead somewhere are followed before those behind them. -/
theorem follow_append (h : fs.Linkless)
    {onLink : Place → Path → List Move → Except FileError Place} {ms : List Move}
    (hleads : Leads fs here ms place) (ms' : List Move) :
    follow fs followLast onLink here (ms ++ ms') = follow fs followLast onLink place ms' := by
  induction ms generalizing here with
  | nil => rw [hleads, List.nil_append]
  | cons m ms ih =>
    have hlink : fs.linkAhead? here m = none := Option.eq_none_iff_forall_ne_some.mpr
      fun target htarget => h _ target (linkAhead?_eq_some.mp htarget).2
    rw [List.cons_append, follow_step hleads.1 hlink, ih hleads.2]

/-- **Below a directory that may not be searched every path is refused.** -/
theorem locate_eq_refused {r : Refusal} {ms : List Move} (h : fs.Linkless)
    (hd : fs.lookup workingDirectory d true = .ok (place, .directory))
    (hrefused : fs.host.refusal? place .search = some r) (hp : p.bytes ≠ [])
    (hstart : start workingDirectory p = start workingDirectory d)
    (hmoves : moves p = steps d ++ .enter name :: ms) :
    fs.locate workingDirectory p followLast = .error (.refused r) := by
  obtain ⟨-, hleads, hplace⟩ := (lookup_eq_directory_iff h).mp hd
  have hobstacle : fs.obstacle? place (.enter name) = some (.refused r) := by
    rw [obstacle?, hplace, barrier?, if_neg (by simp), hrefused]
    rfl
  have hrest {onLink : Place → Path → List Move → Except FileError Place} :
      follow fs followLast onLink place (.enter name :: ms) = .error (.refused r) := by
    rw [follow_cons, hobstacle]
  rw [locate, if_neg hp, hstart, hmoves, maxLinks, followLinks, follow_append h hleads, hrest]

/-- A name joined to a path that leads to such a directory leads nowhere. -/
theorem locate_join_eq_refused {r : Refusal} (h : fs.Linkless) (hname : IsName name)
    (hd : fs.lookup workingDirectory d true = .ok (place, .directory))
    (hrefused : fs.host.refusal? place .search = some r) :
    fs.locate workingDirectory (d.join ⟨name⟩) followLast = .error (.refused r) :=
  locate_eq_refused h hd hrefused (bytes_join_ne_nil hname.toIsPart) (start_join hname)
    (moves_join hname)

/-- Two names joined to it lead nowhere either. -/
theorem locate_join_join_eq_refused {r : Refusal} {name' : Name} (h : fs.Linkless)
    (hname : IsName name) (hname' : IsName name')
    (hd : fs.lookup workingDirectory d true = .ok (place, .directory))
    (hrefused : fs.host.refusal? place .search = some r) :
    fs.locate workingDirectory ((d.join ⟨name⟩).join ⟨name'⟩) followLast
      = .error (.refused r) := by
  have hmoves : moves ((d.join ⟨name⟩).join ⟨name'⟩)
      = steps d ++ .enter name :: [.enter name'] := by
    rw [moves_join hname', steps_join hname, List.append_assoc]
    rfl
  exact locate_eq_refused h hd hrefused (bytes_join_ne_nil hname'.toIsPart)
    ((start_join hname').trans (start_join hname)) hmoves

end FileSystem

end SyntaxKit
