import Mathlib.Data.List.Basic
import SyntaxKit.Files.System

/-!
# The view of a file system

A file system is told by what is at each place.  Putting an entry at a place changes what is there
and nothing else, and so does taking one away; only the root is a directory for good.
-/

namespace SyntaxKit

namespace FileSystem

variable {fs fs' fs'' : FileSystem} {place q : Place} {e : Entry}

/-! ## One entry -/

@[simp] theorem entries_mk (entries : List (Place × Entry)) : (mk entries).entries = entries := rfl

@[simp] theorem host_insert (fs : FileSystem) (place : Place) (e : Entry) :
    (fs.insert place e).host = fs.host := rfl

@[simp] theorem host_erase (fs : FileSystem) (place : Place) : (fs.erase place).host = fs.host := rfl

theorem find?_put (entries : List (Place × Entry)) :
    find? q (put place e entries) = if q = place then some e else find? q entries := by
  induction entries with
  | nil =>
    by_cases h : place = q
    · simp [put, find?, h]
    · simp [put, find?, h, Ne.symm h]
  | cons head rest ih =>
    obtain ⟨p, old⟩ := head
    by_cases hp : p = place
    · subst hp
      by_cases h : p = q
      · simp [put, find?, h]
      · simp [put, find?, h, Ne.symm h]
    · by_cases h : p = q
      · subst h
        simp [put, find?, hp]
      · simp [put, find?, hp, h, ih]

theorem find?_filter (entries : List (Place × Entry)) :
    find? q (entries.filter fun e => e.1 != place)
      = if q = place then none else find? q entries := by
  induction entries with
  | nil => simp [find?]
  | cons head rest ih =>
    obtain ⟨p, old⟩ := head
    by_cases hp : p = place
    · subst hp
      by_cases h : p = q
      · subst h
        simpa using ih
      · simpa [find?, h] using ih
    · by_cases h : p = q
      · subst h
        simp [find?, hp]
      · simp [find?, hp, h, ih]

/-- What is listed for a place is found there. -/
theorem find?_ne_none {entries : List (Place × Entry)} (h : (q, e) ∈ entries) :
    find? q entries ≠ none := by
  induction entries with
  | nil => simp at h
  | cons head rest ih =>
    obtain ⟨p, old⟩ := head
    rw [find?]
    split
    · simp
    · next hp =>
      rcases List.mem_cons.mp h with heq | hrest
      · exact absurd (congrArg Prod.fst heq).symm hp
      · exact ih hrest

theorem mem_of_find? {entries : List (Place × Entry)} (h : find? q entries = some e) :
    (q, e) ∈ entries := by
  induction entries with
  | nil => simp [find?] at h
  | cons head rest ih =>
    obtain ⟨p, old⟩ := head
    rw [find?] at h
    split at h
    · next hp =>
      rw [hp, Option.some.inj h]
      exact List.mem_cons_self
    · exact List.mem_cons_of_mem _ (ih h)

@[simp] theorem entry?_root : fs.entry? [] = some .directory := if_pos rfl

theorem entry?_eq_find? (hroot : place ≠ []) : fs.entry? place = find? place fs.entries :=
  if_neg hroot

/-- **Putting an entry at a place changes what is there and nothing else.** -/
theorem entry?_insert (hroot : place ≠ []) :
    entry? (fs.insert place e) q = if q = place then some e else fs.entry? q := by
  by_cases hq : q = []
  · subst hq
    simp [Ne.symm hroot]
  · rw [entry?_eq_find? hq, insert, find?_put, entry?_eq_find? hq]

/-- Of two entries put at a place the second is there. -/
theorem insert_insert (fs : FileSystem) (place : Place) (e e' : Entry) :
    (fs.insert place e).insert place e' = fs.insert place e' := by
  have hput (entries : List (Place × Entry)) :
      put place e' (put place e entries) = put place e' entries := by
    induction entries with
    | nil => simp [put]
    | cons head rest ih =>
      obtain ⟨p, old⟩ := head
      by_cases hp : p = place
      · simp [put, hp]
      · simp [put, hp, ih]
  rw [insert, insert, hput, insert]

/-- **Taking the entry at a place away changes what is there and nothing else.** -/
theorem entry?_erase (hroot : place ≠ []) :
    entry? (fs.erase place) q = if q = place then none else fs.entry? q := by
  by_cases hq : q = []
  · subst hq
    simp [Ne.symm hroot]
  · rw [entry?_eq_find? hq, erase, find?_filter, entry?_eq_find? hq]

theorem entry?_erase_of_ne (hroot : place ≠ []) (hne : q ≠ place) :
    entry? (fs.erase place) q = fs.entry? q := by
  rw [entry?_erase hroot, if_neg hne]

/-- What is there after an entry has been taken away was there before, at another place. -/
theorem entry?_of_erase (hroot : place ≠ []) (h : entry? (fs.erase place) q = some e) :
    q ≠ place ∧ fs.entry? q = some e := by
  rw [entry?_erase hroot] at h
  split at h
  · simp at h
  · next hne => exact ⟨hne, h⟩

theorem erase_comm (fs : FileSystem) (place q : Place) :
    (fs.erase place).erase q = (fs.erase q).erase place := by
  simp only [erase, List.filter_filter, Bool.and_comm]

/-- A place at which there is no directory is not the root. -/
theorem ne_root (h : fs.entry? place ≠ some .directory) : place ≠ [] := by
  rintro rfl
  exact h entry?_root

/-! ## The names of a directory -/

/-- The names of a directory are those under which there is something. -/
theorem mem_names {name : Name} :
    name ∈ fs.names place ↔ fs.entry? (place ++ [name]) ≠ none := by
  rw [names, List.mem_eraseDups, List.mem_filterMap, entry?_eq_find? (by simp)]
  constructor
  · rintro ⟨⟨p, e⟩, hmem, hname⟩
    simp only at hname
    split at hname
    · next last hlast =>
      simp only [Option.ite_none_right_eq_some, Option.some.injEq] at hname
      obtain ⟨rfl, rfl⟩ := hname
      rw [List.dropLast_append_getLast? _ hlast]
      exact find?_ne_none hmem
    · simp at hname
  · intro hentry
    obtain ⟨e, he⟩ := Option.ne_none_iff_exists'.mp hentry
    exact ⟨(place ++ [name], e), mem_of_find? he, by simp⟩

theorem nodup_eraseDups {α : Type} [BEq α] [LawfulBEq α] (l : List α) : l.eraseDups.Nodup := by
  induction hlength : l.length using Nat.strongRecOn generalizing l with
  | ind n ih =>
    cases l with
    | nil => simp
    | cons a rest =>
      have hshorter : (rest.filter fun b => !b == a).length < n := by
        rw [← hlength, List.length_cons, Nat.lt_succ_iff]
        exact List.length_filter_le _ _
      rw [List.eraseDups_cons, List.nodup_cons]
      refine ⟨?_, ih _ hshorter _ rfl⟩
      rw [List.mem_eraseDups, List.mem_filter]
      simp

/-- A directory lists no name twice. -/
theorem nodup_names : (fs.names place).Nodup := nodup_eraseDups _

/-! ## Steps -/

/-- Where a step leads from a place. -/
def stepFrom (here : Place) : Move → Place
  | .arrive | .stay => here
  | .up => here.dropLast
  | .enter name => here ++ [name]

/-- Why a step cannot be taken: it leads on only from a directory, and not where it is refused. -/
def obstacle? (fs : FileSystem) (here : Place) (m : Move) : Option FileError :=
  match fs.entry? here with
  | none => some .notFound
  | some (.file ..) | some (.link _) => some .notDirectory
  | some .directory => (fs.barrier? here m).map .refused

/-- The target of the link that a step comes to. -/
def linkAhead? (fs : FileSystem) (here : Place) : Move → Option Path
  | .enter name =>
    match fs.entry? (here ++ [name]) with
    | some (.link target) => some target
    | _ => none
  | .arrive | .stay | .up => none

theorem obstacle?_eq_none {here : Place} {m : Move} : fs.obstacle? here m = none ↔
    fs.entry? here = some .directory ∧ fs.barrier? here m = none := by
  rw [obstacle?]
  cases fs.entry? here with
  | none => simp
  | some e => cases e <;> simp

/-- A step comes to a link if it enters one. -/
theorem linkAhead?_eq_some {here : Place} {m : Move} {target : Path} :
    fs.linkAhead? here m = some target ↔
      (∃ name, m = .enter name) ∧ fs.entry? (stepFrom here m) = some (.link target) := by
  cases m with
  | arrive | stay | up => simp [linkAhead?]
  | enter name =>
    rw [linkAhead?, stepFrom]
    cases fs.entry? (here ++ [name]) with
    | none => simp
    | some e => cases e <;> simp

/-- A step comes to the same link, or to none, where the links are the same. -/
theorem linkAhead?_congr {here : Place} {m : Move}
    (h : ∀ target, fs.entry? (stepFrom here m) = some (.link target) ↔
      fs'.entry? (stepFrom here m) = some (.link target)) :
    fs'.linkAhead? here m = fs.linkAhead? here m := by
  refine Option.ext fun target => ?_
  rw [linkAhead?_eq_some, linkAhead?_eq_some, h]

section

variable {followLast : Bool} {onLink : Place → Path → List Move → Except FileError Place}
  {here : Place} {name : Name} {m : Move} {ms : List Move}

/-- **Following steps one by one**: a step that can be taken leads on, to a link or past it. -/
theorem follow_cons (here : Place) (m : Move) (ms : List Move) :
    follow fs followLast onLink here (m :: ms) = match fs.obstacle? here m with
      | some e => .error e
      | none =>
        match fs.linkAhead? here m with
        | some target =>
          if ms.isEmpty && !followLast then .ok (stepFrom here m) else onLink here target ms
        | none => follow fs followLast onLink (stepFrom here m) ms := by
  rw [follow.eq_def, obstacle?]
  dsimp only
  cases hhere : fs.entry? here with
  | none => rfl
  | some e =>
    cases e with
    | file | link => rfl
    | directory =>
      dsimp only
      cases fs.barrier? here m with
      | some r => rfl
      | none =>
        cases m with
        | arrive | stay | up => rfl
        | enter name =>
          rw [Option.map_none, linkAhead?, stepFrom]
          dsimp only
          cases fs.entry? (here ++ [name]) with
          | none => rfl
          | some e => cases e <;> rfl

/-- A step that can be taken and comes to no link leads on. -/
theorem follow_step (hstep : fs.obstacle? here m = none) (hlink : fs.linkAhead? here m = none) :
    follow fs followLast onLink here (m :: ms)
      = follow fs followLast onLink (stepFrom here m) ms := by
  rw [follow_cons, hstep]
  dsimp only
  rw [hlink]

/-- A link is followed from the directory that it is in, unless it is at the end. -/
theorem follow_link {target : Path} (hstep : fs.obstacle? here m = none)
    (hlink : fs.linkAhead? here m = some target) :
    follow fs followLast onLink here (m :: ms)
      = if ms.isEmpty && !followLast then .ok (stepFrom here m) else onLink here target ms := by
  rw [follow_cons, hstep]
  dsimp only
  rw [hlink]

/-- Steps that lead somewhere can be taken. -/
theorem obstacle?_of_follow (h : follow fs followLast onLink here (m :: ms) = .ok q) :
    fs.obstacle? here m = none := by
  rw [follow_cons] at h
  split at h
  · simp at h
  · next hstep => exact hstep

/-- A step leads on only from a directory. -/
theorem directory_of_follow (h : follow fs followLast onLink here (m :: ms) = .ok q) :
    fs.entry? here = some .directory :=
  (obstacle?_eq_none.mp (obstacle?_of_follow h)).1

/-- Steps that lead to something lead on from something. -/
theorem entry?_ne_none_of_follow (h : follow fs followLast onLink here ms = .ok q)
    (hq : fs.entry? q ≠ none) : fs.entry? here ≠ none := by
  cases ms with
  | nil => rwa [Except.ok.inj h]
  | cons m ms => simp [directory_of_follow h]

end

/-! ## Looking up -/

/-- What a path leads to is there. -/
theorem entry?_of_lookup {workingDirectory : Place} {p : Path} {followLast : Bool}
    (h : fs.lookup workingDirectory p followLast = .ok (place, e)) : fs.entry? place = some e := by
  rw [lookup] at h
  split at h
  · simp at h
  · split at h
    · simp at h
    · next he =>
      simp only [Except.ok.injEq, Prod.mk.injEq] at h
      rw [← h.1, ← h.2, he]

/-- To look a path up is to find where it leads and what is there. -/
theorem lookup_eq_ok {workingDirectory : Place} {p : Path} {followLast : Bool} :
    fs.lookup workingDirectory p followLast = .ok (place, e) ↔
      fs.locate workingDirectory p followLast = .ok place ∧ fs.entry? place = some e := by
  rw [lookup]
  cases fs.locate workingDirectory p followLast with
  | error e => simp
  | ok q =>
    constructor
    · cases hq : fs.entry? q with
      | none => simp [hq]
      | some e' =>
        simp only [hq, Except.ok.injEq, Prod.mk.injEq, and_imp]
        rintro rfl rfl
        exact ⟨rfl, hq⟩
    · rintro ⟨hplace, he⟩
      obtain rfl := Except.ok.inj hplace
      simp only [he]

/-! ## Asking -/

section

variable {workingDirectory : Place} {p : Path}

theorem pathExists_eq_true :
    fs.pathExists workingDirectory p = true
      ↔ ∃ q e, fs.lookup workingDirectory p true = .ok (q, e) := by
  rw [pathExists]
  cases fs.lookup workingDirectory p true with
  | error e => simp
  | ok found => simpa using ⟨found.1, found.2, rfl⟩

theorem isDirectory_eq_true :
    fs.isDirectory workingDirectory p = true ↔
      ∃ q, fs.lookup workingDirectory p true = .ok (q, .directory) := by
  rw [isDirectory]
  split
  · next q hlookup => simp [hlookup]
  · next hnot =>
    simp only [Bool.false_eq_true, false_iff]
    rintro ⟨q, hlookup⟩
    exact hnot q hlookup

theorem isFile_eq_true :
    fs.isFile workingDirectory p = true ↔
      ∃ place bytes mode, fs.lookup workingDirectory p true = .ok (place, .file bytes mode) := by
  rw [isFile]
  split
  · next place bytes mode hlookup => simp [hlookup]
  · next hnot =>
    simp only [Bool.false_eq_true, false_iff]
    rintro ⟨place, bytes, mode, hlookup⟩
    exact hnot place bytes mode hlookup

/-- One step after another comes to a value if both do. -/
theorem bind_eq_ok {α β : Type} {x : Except FileError α} {f : α → Except FileError β} {b : β} :
    x >>= f = .ok b ↔ ∃ a, x = .ok a ∧ f a = .ok b := by
  cases x <;> simp [Bind.bind, Except.bind]

theorem permit_eq_ok {α : Type} {use : Use} {a b : α} :
    fs.permit place use a = .ok b ↔ fs.host.refusal? place use = none ∧ b = a := by
  rw [permit]
  cases fs.host.refusal? place use <;> simp [eq_comm]

theorem permit_eq_error {α : Type} {use : Use} {a : α} {cause : FileError} :
    fs.permit place use a = .error cause ↔
      ∃ r, fs.host.refusal? place use = some r ∧ cause = .refused r := by
  rw [permit]
  cases fs.host.refusal? place use <;> simp [eq_comm]

/-- A file is read where the path leads to one that may be read. -/
theorem read_eq_ok {bytes : List UInt8} :
    fs.read workingDirectory p = .ok bytes ↔
      ∃ place mode, fs.lookup workingDirectory p true = .ok (place, .file bytes mode)
        ∧ fs.host.refusal? place (.read mode) = none := by
  rw [read]
  cases fs.lookup workingDirectory p true with
  | error e => simp
  | ok found =>
    obtain ⟨place, e⟩ := found
    cases e with
    | file contents mode =>
      rw [permit_eq_ok]
      constructor
      · rintro ⟨hread, rfl⟩
        exact ⟨place, mode, rfl, hread⟩
      · rintro ⟨place, mode, ⟨⟩, hread⟩
        exact ⟨hread, rfl⟩
    | directory => simp [bind_eq_ok, throw, throwThe, MonadExceptOf.throw]
    | link target => simp

/-- The names in a directory are listed where the path leads to one that may be listed. -/
theorem list_eq_ok {names : List Name} :
    fs.list workingDirectory p = .ok names ↔
      ∃ place, fs.lookup workingDirectory p true = .ok (place, .directory)
        ∧ fs.host.refusal? place .list = none ∧ names = fs.names place := by
  rw [list]
  cases fs.lookup workingDirectory p true with
  | error e => simp
  | ok found =>
    obtain ⟨place, e⟩ := found
    cases e with
    | directory => simp [permit_eq_ok]
    | file | link => simp

end

end FileSystem

end SyntaxKit
