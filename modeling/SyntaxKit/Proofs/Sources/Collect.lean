import Mathlib.Data.List.Nodup
import SyntaxKit.Proofs.Files.Entries
import SyntaxKit.Proofs.Files.Order
import SyntaxKit.Proofs.Task
import SyntaxKit.Sources.Collect

/-!
# The source files that are collected

What is to be found below a directory is said without a walk: a list of names leads from it to a
file if there is a file at the end and a directory at every place before (`FileSystem.FileBelow`).
Where all directories can be read, the walk comes upon exactly these lists (`Sources.mem_walk`) and upon
none of them twice (`Sources.nodup_walk`), wherever links lead.  So what is collected is known file by
file and in its order (`Sources.collect_spec`).  One directory that cannot be read is enough for nothing
to be collected (`Sources.collect_of_not_readable`).
-/

namespace SyntaxKit

open SyntaxKit.Path

namespace FileSystem

/-- Every entry has a name that a path can tell. -/
def Named (fs : FileSystem) : Prop := ∀ q name, fs.entry? (q ++ [name]) ≠ none → IsName name

theorem named_of_entries {fs : FileSystem} (h : ∀ e ∈ fs.entries, ∀ name ∈ e.1, IsName name) :
    fs.Named := by
  intro q name hentry
  rw [entry?_eq_find? (by simp)] at hentry
  obtain ⟨e, he⟩ := Option.ne_none_iff_exists'.mp hentry
  exact h _ (mem_of_find? he) name (by simp)

/-- Names lead from a directory to a file, through directories only. -/
structure FileBelow (fs : FileSystem) (place : Place) (names : List Name) : Prop where
  file : ∃ bytes executable, fs.entry? (place ++ names) = some (.file bytes executable)
  directories : ∀ front, front <+: names → front ≠ names →
    fs.entry? (place ++ front) = some .directory

variable {fs : FileSystem} {place : Place} {name : Name} {names : List Name}

theorem not_fileBelow_nil (hplace : fs.entry? place = some .directory) :
    ¬fs.FileBelow place [] := by
  intro h
  obtain ⟨bytes, executable, hfile⟩ := h.file
  simp [hplace] at hfile

theorem fileBelow_singleton (hplace : fs.entry? place = some .directory) :
    fs.FileBelow place [name]
      ↔ ∃ bytes executable, fs.entry? (place ++ [name]) = some (.file bytes executable) := by
  refine ⟨FileBelow.file, fun hfile => ⟨hfile, fun front hfront hne => ?_⟩⟩
  rcases List.prefix_cons_iff.mp hfront with rfl | ⟨rest, rfl, hrest⟩
  · simpa using hplace
  · rw [List.prefix_nil.mp hrest] at hne
    exact absurd rfl hne

/-- The first of several names leads to a directory, and the others lead on from there. -/
theorem fileBelow_cons (hplace : fs.entry? place = some .directory) (hnames : names ≠ []) :
    fs.FileBelow place (name :: names)
      ↔ fs.entry? (place ++ [name]) = some .directory ∧ fs.FileBelow (place ++ [name]) names := by
  have hassoc (rest : List Name) : place ++ [name] ++ rest = place ++ name :: rest := by simp
  constructor
  · intro h
    refine ⟨h.directories [name] ?_ ?_, ?_, fun front hfront hne => ?_⟩
    · exact List.prefix_cons_inj name |>.mpr (List.nil_prefix)
    · simpa using hnames.symm
    · simpa only [hassoc] using h.file
    · rw [hassoc]
      exact h.directories (name :: front) ((List.prefix_cons_inj name).mpr hfront)
        (by simpa using hne)
  · rintro ⟨hdirectory, h⟩
    refine ⟨?_, fun front hfront hne => ?_⟩
    · simpa only [hassoc] using h.file
    · rcases List.prefix_cons_iff.mp hfront with rfl | ⟨rest, rfl, hrest⟩
      · simpa using hplace
      · rw [← hassoc]
        exact h.directories rest hrest (by simpa using hne)

/-- Where all entries have names, so have the places on the way to a file. -/
theorem FileBelow.isName (hnamed : fs.Named) (hplace : fs.entry? place = some .directory)
    (h : fs.FileBelow place names) : ∀ name ∈ names, IsName name := by
  induction names generalizing place with
  | nil => simp
  | cons name rest ih =>
    rw [List.forall_mem_cons]
    cases rest with
    | nil =>
      obtain ⟨bytes, executable, hfile⟩ := (fileBelow_singleton hplace).mp h
      exact ⟨hnamed place name (by simp [hfile]), by simp⟩
    | cons next rest =>
      obtain ⟨hdirectory, hrest⟩ := (fileBelow_cons hplace (List.cons_ne_nil _ _)).mp h
      exact ⟨hnamed place name (by simp [hdirectory]), ih hdirectory hrest⟩

/-- Names lead from a place to a directory, through directories only. -/
def DirectoryBelow (fs : FileSystem) (place : Place) (names : List Name) : Prop :=
  ∀ front, front <+: names → fs.entry? (place ++ front) = some .directory

theorem directoryBelow_nil (hplace : fs.entry? place = some .directory) :
    fs.DirectoryBelow place [] := by
  intro front hfront
  rw [List.prefix_nil.mp hfront, List.append_nil]
  exact hplace

theorem directoryBelow_cons (hplace : fs.entry? place = some .directory) :
    fs.DirectoryBelow place (name :: names) ↔ fs.DirectoryBelow (place ++ [name]) names := by
  constructor
  · intro h front hfront
    rw [List.append_assoc, List.singleton_append]
    exact h _ ((List.prefix_cons_inj name).mpr hfront)
  · intro h front hfront
    rcases List.prefix_cons_iff.mp hfront with rfl | ⟨rest, rfl, hrest⟩
    · simpa using hplace
    · simpa using h rest hrest

/-- From a directory on downwards all directories can be read: each of them may be listed, and one that
has a directory in it may be searched for that. -/
structure Readable (fs : FileSystem) (place : Place) : Prop where
  listed : ∀ names, fs.DirectoryBelow place names →
    fs.host.refusal? (place ++ names) .list = none
  searched : ∀ names name, fs.DirectoryBelow place (names ++ [name]) →
    fs.host.refusal? (place ++ names) .search = none

/-- All directories can be read from a directory on if it can be, and from those in it on. -/
theorem readable_iff (hplace : fs.entry? place = some .directory) : fs.Readable place ↔
    fs.host.refusal? place .list = none ∧ ∀ name, fs.entry? (place ++ [name]) = some .directory →
      fs.host.refusal? place .search = none ∧ fs.Readable (place ++ [name]) := by
  have hassoc (name : Name) (rest : List Name) : place ++ name :: rest = place ++ [name] ++ rest := by
    simp
  constructor
  · intro h
    refine ⟨by simpa using h.listed [] (directoryBelow_nil hplace), fun name hname => ⟨?_, ?_⟩⟩
    · have hbelow := (directoryBelow_cons hplace).mpr (directoryBelow_nil hname)
      simpa using h.searched [] name hbelow
    · refine ⟨fun names hnames => ?_, fun names last hnames => ?_⟩
      · exact hassoc name names ▸ h.listed _ ((directoryBelow_cons hplace).mpr hnames)
      · exact hassoc name names ▸ h.searched (name :: names) last
          ((directoryBelow_cons hplace).mpr hnames)
  · rintro ⟨hlisted, hbelow⟩
    have hfirst {name : Name} {rest : List Name} (h : fs.DirectoryBelow place (name :: rest)) :
        fs.entry? (place ++ [name]) = some .directory :=
      h [name] ((List.prefix_cons_inj name).mpr List.nil_prefix)
    constructor
    · rintro (_ | ⟨name, rest⟩) hnames
      · simpa using hlisted
      · rw [hassoc]
        exact (hbelow name (hfirst hnames)).2.listed rest ((directoryBelow_cons hplace).mp hnames)
    · rintro (_ | ⟨name, rest⟩) last hnames
      · simpa using (hbelow last (hfirst hnames)).1
      · rw [hassoc]
        exact (hbelow name (hfirst hnames)).2.searched rest last
          ((directoryBelow_cons hplace).mp hnames)

end FileSystem

namespace Sources

open FileSystem

variable {fs : FileSystem} {place : Place} {name : Name} {names : List Name} {s : Surroundings}
  {w : World} {p q : Path} {extension : List Char}

/-! ## The walk -/

/-- What a walk meets under a name of a directory: a file, a directory that cannot be reached, or what it
comes upon in a directory. -/
inductive Meets (fs : FileSystem) (place : Place) (name : Name) : Encounter → Prop
  | file {bytes : List UInt8} {mode : FileMode}
      (hfile : fs.entry? (place ++ [name]) = some (.file bytes mode)) : Meets fs place name (.ok [])
  | barred {r : Refusal} (hdirectory : fs.entry? (place ++ [name]) = some .directory)
      (hsearch : fs.host.refusal? place .search = some r) :
      Meets fs place name (.error ([], .refused r))
  | below {x : Encounter} (hdirectory : fs.entry? (place ++ [name]) = some .directory)
      (hsearch : fs.host.refusal? place .search = none) (hx : x ∈ walk fs (place ++ [name])) :
      Meets fs place name x

theorem under_inj {name' : Name} {x y : Encounter} (h : x.under name = y.under name') :
    name = name' ∧ x = y := by
  rcases x with ⟨names, e⟩ | names <;> rcases y with ⟨names', e'⟩ | names' <;>
    simp_all [Encounter.under]

/-- **One step of a walk**: of a directory that may be listed, each name is followed. -/
theorem mem_walk_iff {x : Encounter} (hlist : fs.host.refusal? place .list = none) :
    x ∈ walk fs place ↔ ∃ name y, Meets fs place name y ∧ x = y.under name := by
  rw [walk, hlist]
  dsimp only
  simp only [List.mem_flatMap, List.mem_map]
  constructor
  · rintro ⟨name, -, y, hy, rfl⟩
    refine ⟨name, y, ?_, rfl⟩
    split at hy
    · next bytes mode hfile =>
      rw [List.mem_singleton.mp hy]
      exact .file hfile
    · next hdirectory =>
      split at hy
      · next r hsearch =>
        rw [List.mem_singleton.mp hy]
        exact .barred hdirectory hsearch
      · next hsearch => exact .below hdirectory hsearch hy
    · simp at hy
    · simp at hy
  · rintro ⟨name, y, hmeets, rfl⟩
    have hlisted : name ∈ fs.names place := by
      rw [mem_names]
      cases hmeets <;> simp [*]
    refine ⟨name, hlisted, y, ?_, rfl⟩
    cases hmeets <;> split <;> simp_all

theorem walk_of_refused {r : Refusal} (hlist : fs.host.refusal? place .list = some r) :
    walk fs place = [.error ([], .refused r)] := by
  rw [walk, hlist]

/-- A walk comes upon a file in a directory that may be listed. -/
theorem listed_of_ok_mem_walk (h : .ok names ∈ walk fs place) :
    fs.host.refusal? place .list = none := by
  cases hlist : fs.host.refusal? place .list with
  | none => rfl
  | some r => simp [walk_of_refused hlist] at h

theorem ok_nil_notMem_walk : .ok [] ∉ walk fs place := by
  intro h
  obtain ⟨name, y, -, heq⟩ := (mem_walk_iff (listed_of_ok_mem_walk h)).mp h
  cases y <;> simp [Encounter.under] at heq

/-- What a walk comes upon under a name is what it meets there. -/
theorem under_mem_walk {x : Encounter} (hlist : fs.host.refusal? place .list = none) :
    x.under name ∈ walk fs place ↔ Meets fs place name x := by
  rw [mem_walk_iff hlist]
  constructor
  · rintro ⟨name', y, hmeets, heq⟩
    obtain ⟨rfl, rfl⟩ := under_inj heq
    exact hmeets
  · exact fun hmeets => ⟨name, x, hmeets, rfl⟩

/-- **A walk fails exactly where a directory cannot be read.** -/
theorem readable_iff_walk (hplace : fs.entry? place = some .directory) :
    fs.Readable place ↔ ∀ x, .error x ∉ walk fs place := by
  induction place using walk.induct fs with
  | case1 place r hlist => simp [readable_iff hplace, hlist, walk_of_refused hlist]
  | case2 place hlist ih =>
    rw [readable_iff hplace, and_iff_right hlist]
    constructor
    · rintro hbelow x hx
      obtain ⟨name, y, hmeets, heq⟩ := (mem_walk_iff hlist).mp hx
      cases hmeets with
      | file => simp [Encounter.under] at heq
      | barred hdirectory hsearch => simp [(hbelow name hdirectory).1] at hsearch
      | below hdirectory hsearch hy =>
        cases y with
        | ok names => simp [Encounter.under] at heq
        | error y => exact (ih name hdirectory hdirectory).mp (hbelow name hdirectory).2 y hy
    · intro hnone name hdirectory
      have hnot (x : List Name × FileError) : ¬ Meets fs place name (.error x) := fun hmeets =>
        hnone _ ((under_mem_walk hlist).mpr hmeets)
      have hsearch : fs.host.refusal? place .search = none := by
        cases hsearch : fs.host.refusal? place .search with
        | none => rfl
        | some r => exact absurd (.barred hdirectory hsearch) (hnot _)
      exact ⟨hsearch, (ih name hdirectory hdirectory).mpr fun x hx =>
        hnot x (.below hdirectory hsearch hx)⟩

/-- **Where all directories can be read, a walk comes upon exactly the files below a directory.** -/
theorem mem_walk (hplace : fs.entry? place = some .directory) (hreadable : fs.Readable place) :
    .ok names ∈ walk fs place ↔ fs.FileBelow place names := by
  induction names generalizing place with
  | nil =>
    exact ⟨fun h => absurd h ok_nil_notMem_walk, fun h => absurd h (not_fileBelow_nil hplace)⟩
  | cons name rest ih =>
    obtain ⟨hlist, hbelow⟩ := (readable_iff hplace).mp hreadable
    rw [show Except.ok (name :: rest) = Encounter.under name (.ok rest) from rfl,
      under_mem_walk hlist]
    by_cases hrest : rest = []
    · subst hrest
      rw [fileBelow_singleton hplace]
      constructor
      · rintro (hfile | - | ⟨-, -, hnil⟩)
        · exact ⟨_, _, hfile⟩
        · exact absurd hnil ok_nil_notMem_walk
      · rintro ⟨bytes, mode, hfile⟩
        exact .file hfile
    · rw [fileBelow_cons hplace hrest]
      constructor
      · rintro (- | - | ⟨hdirectory, -, hmem⟩)
        · exact absurd rfl hrest
        · exact ⟨hdirectory, (ih hdirectory (hbelow name hdirectory).2).mp hmem⟩
      · rintro ⟨hdirectory, hfile⟩
        obtain ⟨hsearch, hreadable'⟩ := hbelow name hdirectory
        exact .below hdirectory hsearch ((ih hdirectory hreadable').mpr hfile)

/-- **A walk comes upon nothing twice.** -/
theorem nodup_walk (fs : FileSystem) (place : Place) : (walk fs place).Nodup := by
  induction place using walk.induct fs with
  | case1 place r hlist =>
    rw [walk_of_refused hlist]
    exact List.nodup_singleton _
  | case2 place hlist ih =>
    rw [walk, hlist]
    dsimp only
    rw [List.nodup_flatMap]
    constructor
    · intro name _
      refine List.Nodup.map (fun _ _ heq => (under_inj heq).2) ?_
      split
      · exact List.nodup_singleton _
      · next hdirectory =>
        split
        · exact List.nodup_singleton _
        · exact ih name hdirectory
      · exact List.nodup_nil
      · exact List.nodup_nil
    · refine nodup_names.imp fun {name name'} hne x hmem hmem' => hne ?_
      obtain ⟨y, -, rfl⟩ := List.mem_map.mp hmem
      obtain ⟨y', -, heq⟩ := List.mem_map.mp hmem'
      exact (under_inj heq).1.symm

/-- Paths are found for what a walk comes upon, if no directory is among it that cannot be read. -/
theorem mapM_found (p : Path) {encounters : List Encounter} (h : ∀ x, .error x ∉ encounters) :
    ∃ lists : List (List Name), encounters = lists.map .ok
      ∧ encounters.mapM (found p) = .ok (lists.map p.descend) := by
  induction encounters with
  | nil => exact ⟨[], rfl, rfl⟩
  | cons x rest ih =>
    cases x with
    | error x => exact absurd List.mem_cons_self (h x)
    | ok names =>
      obtain ⟨lists, rfl, hfound⟩ := ih fun x hx => h x (List.mem_cons_of_mem _ hx)
      refine ⟨names :: lists, rfl, ?_⟩
      rw [List.mapM_cons, hfound]
      rfl

/-- The first directory that cannot be read is the failure. -/
theorem mapM_found_of_error (p : Path) {encounters : List Encounter}
    {x : List Name × FileError} (h : .error x ∈ encounters) :
    ∃ names e, .error (names, e) ∈ encounters
      ∧ encounters.mapM (found p) = .error (.file (p.descend names) e) := by
  induction encounters with
  | nil => simp at h
  | cons y rest ih =>
    cases y with
    | error y => exact ⟨y.1, y.2, List.mem_cons_self, rfl⟩
    | ok names =>
      obtain ⟨names', e, hmem, hfound⟩ := ih (by simpa using h)
      refine ⟨names', e, List.mem_cons_of_mem _ hmem, ?_⟩
      rw [List.mapM_cons, hfound]
      rfl

/-! ## Source files of a directory -/

/-- Names lead from a directory to a source file: the last of them has the extension behind its last
point, in any case, and something before it. -/
def SourceBelow (fs : FileSystem) (extension : List Char) (place : Place) (names : List Name) :
    Prop :=
  fs.FileBelow place names ∧ ∃ (front : List Name) (stem e : Name),
    names = front ++ [stem ++ dotByte :: e] ∧ stem ≠ [] ∧ dotByte ∉ e
      ∧ lowered (Utf8.decode e) = lowered extension

theorem hasExtension_eq_true : hasExtension extension p = true ↔
    ∃ e, p.extension? = some e ∧ lowered (Utf8.decode e) = lowered extension := by
  rw [hasExtension]
  cases p.extension? with
  | none => simp
  | some e => simp

/-- The extension of a path below a directory is that of the last name. -/
theorem hasExtension_descend {front : List Name} (hname : IsName name) :
    hasExtension extension (p.descend (front ++ [name])) = true ↔
      ∃ stem e, name = stem ++ dotByte :: e ∧ stem ≠ [] ∧ dotByte ∉ e
        ∧ lowered (Utf8.decode e) = lowered extension := by
  rw [hasExtension_eq_true, descend_concat, extension?_join hname]
  constructor
  · rintro ⟨e, hextension, hlowered⟩
    obtain ⟨stem, hstem, hsplit, hpoint⟩ := extensionOf?_eq_some.mp hextension
    exact ⟨stem, e, hsplit, hstem, hpoint, hlowered⟩
  · rintro ⟨stem, e, hsplit, hstem, hpoint, hlowered⟩
    exact ⟨e, extensionOf?_eq_some.mpr ⟨stem, hstem, hsplit, hpoint⟩, hlowered⟩

theorem sourceBelow_iff (hnamed : fs.Named) (hplace : fs.entry? place = some .directory) :
    SourceBelow fs extension place names ↔
      fs.FileBelow place names ∧ hasExtension extension (p.descend names) = true := by
  refine and_congr_right fun hbelow => ?_
  have hnames := hbelow.isName hnamed hplace
  constructor
  · rintro ⟨front, stem, e, rfl, hend⟩
    have hname : IsName (stem ++ dotByte :: e) := hnames _ (by simp)
    exact (hasExtension_descend hname).mpr ⟨stem, e, rfl, hend⟩
  · intro hextension
    rcases List.eq_nil_or_concat' names with rfl | ⟨front, last, rfl⟩
    · exact absurd hbelow (not_fileBelow_nil hplace)
    · have hlast : IsName last := hnames last List.mem_concat_self
      obtain ⟨stem, e, rfl, hend⟩ := (hasExtension_descend hlast).mp hextension
      exact ⟨front, stem, e, rfl, hend⟩

/-- Some source files are those that a path names.  If it leads to no directory, it names itself.
Otherwise it names the files that are reached from the directory through directories only and have the
extension, in any case: each of them once, in strictly increasing order. -/
structure NamedBy (s : Surroundings) (fs : FileSystem) (extension : List Char) (p : Path)
    (files : List Path) : Prop where
  itself : fs.isDirectory s.workingDirectory p = false → files = [p]
  sorted : ∀ place, fs.lookup s.workingDirectory p true = .ok (place, .directory) →
    files.Pairwise Path.Precedes
  below : ∀ place, fs.lookup s.workingDirectory p true = .ok (place, .directory) →
    ∀ q, q ∈ files ↔ ∃ names, SourceBelow fs extension place names ∧ q = p.descend names

/-- If a path leads to a directory, all directories can be read from there on. -/
def ReadableFrom (s : Surroundings) (fs : FileSystem) (p : Path) : Prop :=
  ∀ place, fs.lookup s.workingDirectory p true = .ok (place, .directory) → fs.Readable place

/-- The files with the extension that a walk finds, sorted, are those that the path names. -/
theorem namedBy_of_walk (hnamed : fs.Named) {lists : List (List Name)}
    (hlookup : fs.lookup s.workingDirectory p true = .ok (place, .directory))
    (hreadable : fs.Readable place) (hwalk : walk fs place = lists.map .ok) :
    NamedBy s fs extension p
      (((lists.map p.descend).filter (hasExtension extension)).mergeSort Path.le) := by
  have hplace := entry?_of_lookup hlookup
  have hlists (names : List Name) : names ∈ lists ↔ fs.FileBelow place names := by
    rw [← mem_walk hplace hreadable, hwalk, List.mem_map]
    simp
  have hunique {place' : Place}
      (h : fs.lookup s.workingDirectory p true = .ok (place', .directory)) : place = place' := by
    simpa using hlookup.symm.trans h
  refine ⟨fun hnot => ?_, fun _ _ => pairwise_mergeSort ?_, fun place' h q => ?_⟩
  · exact absurd (isDirectory_eq_true.mpr ⟨place, hlookup⟩) (by simp [hnot])
  · -- the paths differ, since their last components are the names that the walk found
    have hcomponents : ∀ names ∈ lists,
        (p.descend names).components = p.components ++ names.map .normal := fun names hmem =>
      components_descend (((hlists names).mp hmem).isName hnamed hplace)
    have hnodup : ((lists.map p.descend).map components).Nodup := by
      rw [List.map_map, List.map_congr_left (g := fun names => p.components ++ names.map .normal)
        hcomponents]
      have hdistinct := nodup_walk fs place
      rw [hwalk] at hdistinct
      refine hdistinct.of_map.map fun names names' heq => ?_
      exact List.map_injective_iff.mpr (fun _ _ => Component.normal.inj)
        (List.append_cancel_left heq)
    exact hnodup.sublist (List.filter_sublist.map components)
  · obtain rfl := hunique h
    rw [List.mem_mergeSort, List.mem_filter, List.mem_map]
    constructor
    · rintro ⟨⟨names, hmem, rfl⟩, hextension⟩
      exact ⟨names, (sourceBelow_iff hnamed hplace).mpr ⟨(hlists names).mp hmem, hextension⟩, rfl⟩
    · rintro ⟨names, hsource, rfl⟩
      obtain ⟨hbelow, hextension⟩ := (sourceBelow_iff hnamed hplace).mp hsource
      exact ⟨⟨names, (hlists names).mpr hbelow, rfl⟩, hextension⟩

/-- What is no directory names itself. -/
theorem expand_of_not_directory (h : fs.isDirectory s.workingDirectory p = false) :
    expand s fs extension p = .ok [p] := by
  rw [expand]
  split
  · next place hlookup => simp [isDirectory, hlookup] at h
  · rfl

/-- A path names source files if all directories can be read from it on. -/
theorem exists_expand (hnamed : fs.Named) (hreadable : ReadableFrom s fs p) :
    ∃ files, expand s fs extension p = .ok files ∧ NamedBy s fs extension p files := by
  cases hdirectory : fs.isDirectory s.workingDirectory p with
  | true =>
    obtain ⟨place, hlookup⟩ := isDirectory_eq_true.mp hdirectory
    have hwalk := (readable_iff_walk (entry?_of_lookup hlookup)).mp (hreadable place hlookup)
    obtain ⟨lists, hlists, hfound⟩ := mapM_found p hwalk
    refine ⟨_, ?_, namedBy_of_walk hnamed hlookup (hreadable place hlookup) hlists⟩
    rw [expand, hlookup]
    dsimp only
    rw [hfound]
  | false =>
    have hnot (place : Place) :
        fs.lookup s.workingDirectory p true ≠ .ok (place, .directory) := fun h => by
      simp [isDirectory_eq_true.mpr ⟨place, h⟩] at hdirectory
    exact ⟨[p], expand_of_not_directory hdirectory, fun _ => rfl,
      fun place h => absurd h (hnot place), fun place h => absurd h (hnot place)⟩

/-- A path from which on a directory cannot be read names nothing, and the failure is of one there. -/
theorem expand_of_not_readable (h : ¬ ReadableFrom s fs p) :
    ∃ names e, expand s fs extension p = .error (.file (p.descend names) e) := by
  obtain ⟨place, hlookup, hnot⟩ : ∃ place,
      fs.lookup s.workingDirectory p true = .ok (place, .directory) ∧ ¬ fs.Readable place := by
    simpa [ReadableFrom] using h
  rw [readable_iff_walk (entry?_of_lookup hlookup)] at hnot
  push Not at hnot
  obtain ⟨x, hx⟩ := hnot
  obtain ⟨names, e, -, hfound⟩ := mapM_found_of_error p hx
  refine ⟨names, e, ?_⟩
  rw [expand, hlookup]
  dsimp only
  rw [hfound]

/-! ## The source files of some paths -/

/-- What is collected is what the paths name one by one; no file is changed. -/
theorem collect_eq_ok {paths sources : List Path} {w' : World} :
    collect paths extension s w = (.ok sources, w') ↔ w' = w ∧ ∃ lists : List (List Path),
      List.Forall₂ (fun p files => expand s w.files extension p = .ok files) paths lists
        ∧ sources = lists.flatten := by
  induction paths generalizing sources w' with
  | nil =>
    rw [collect, Task.run_pure]
    simp [eq_comm, and_comm]
  | cons p rest ih =>
    rw [collect, Task.run_bind_of_ok (Task.run_look _)]
    cases hexpand : expand s w.files extension p with
    | error e => simp [hexpand, List.forall₂_cons_left_iff]
    | ok files =>
      dsimp only
      rw [Task.bind_eq_ok]
      constructor
      · rintro ⟨others, w₁, hrest, hpure⟩
        obtain ⟨rfl, lists, hlists, rfl⟩ := ih.mp hrest
        rw [Task.run_pure, Prod.mk.injEq, Except.ok.injEq] at hpure
        obtain ⟨rfl, rfl⟩ := hpure
        exact ⟨rfl, files :: lists, .cons hexpand hlists, rfl⟩
      · rintro ⟨rfl, lists, hlists, rfl⟩
        obtain ⟨files', lists', hfiles', hlists', rfl⟩ := List.forall₂_cons_left_iff.mp hlists
        obtain rfl := Except.ok.inj (hexpand.symm.trans hfiles')
        exact ⟨lists'.flatten, w', ih.mpr ⟨rfl, lists', hlists', rfl⟩, rfl⟩

/-- **The source files that some paths name are found in the order of the paths**, if all directories can
be read.  What is no directory names itself.  A directory names the files that are reached from it
through directories only and have the extension, in any case: each of them once, in strictly increasing
order, and no others.  Links lead to the directory, but not to anything below it; wherever they lead,
all files are found. -/
theorem collect_spec (hnamed : w.files.Named) (paths : List Path) (extension : List Char)
    (hreadable : ∀ p ∈ paths, ReadableFrom s w.files p) :
    ∃ lists : List (List Path), collect paths extension s w = (.ok lists.flatten, w)
      ∧ List.Forall₂ (NamedBy s w.files extension) paths lists := by
  suffices h : ∃ lists : List (List Path), List.Forall₂ (fun p files =>
      expand s w.files extension p = .ok files ∧ NamedBy s w.files extension p files) paths lists by
    obtain ⟨lists, hlists⟩ := h
    exact ⟨lists, collect_eq_ok.mpr ⟨rfl, lists, hlists.imp fun _ _ => And.left, rfl⟩,
      hlists.imp fun _ _ => And.right⟩
  induction paths with
  | nil => exact ⟨[], .nil⟩
  | cons p rest ih =>
    rw [List.forall_mem_cons] at hreadable
    obtain ⟨files, hfiles⟩ := exists_expand hnamed hreadable.1
    obtain ⟨lists, hlists⟩ := ih hreadable.2
    exact ⟨files :: lists, .cons hfiles hlists⟩

/-- **Nothing is collected where a directory cannot be read**: the failure tells one that cannot. -/
theorem collect_of_not_readable {paths : List Path} (hnamed : w.files.Named)
    (h : ∃ p ∈ paths, ¬ ReadableFrom s w.files p) :
    ∃ p ∈ paths, ∃ names e,
      collect paths extension s w = (.error (.file (p.descend names) e), w) := by
  induction paths with
  | nil => simp at h
  | cons p rest ih =>
    rw [collect, Task.run_bind_of_ok (Task.run_look _)]
    by_cases hreadable : ReadableFrom s w.files p
    · obtain ⟨files, hexpand, -⟩ := exists_expand hnamed hreadable
      obtain ⟨q, hq, names, e, hrest⟩ := ih (by simpa [hreadable] using h)
      refine ⟨q, List.mem_cons_of_mem _ hq, names, e, ?_⟩
      rw [hexpand]
      exact Task.run_bind_of_error hrest
    · obtain ⟨names, e, hexpand⟩ := expand_of_not_readable hreadable
      refine ⟨p, List.mem_cons_self, names, e, ?_⟩
      rw [hexpand]
      rfl

/-- A directory with a link that leads back to it. -/
def circle : FileSystem := .mk [(["d"], .directory), (["d", "b.ha"], .file [] false),
  (["d", "back"], .link (Path.ofString "../d")), (["d", "e"], .directory),
  (["d", "e", "a.HA"], .file [] false), (["d", "e", ".ha"], .file [] false)]

/-- The surroundings of a process in the root directory. -/
def rootSurroundings : Surroundings where
  workingDirectory := []
  home := none
  tool _ _ fs := (.ended (.status 0) [], fs)

/-- The file two steps below it is found by its extension in capitals, and a path that leads nowhere
is taken as it is. -/
theorem collect_spec_circle : circle.Named
    ∧ (∀ p, ReadableFrom rootSurroundings circle p)
    ∧ ∃ sources, collect [Path.ofString "d", Path.ofString "gone"] "ha".toList rootSurroundings
        { files := circle } = (.ok sources, { files := circle })
      ∧ Path.ofString "d/e/a.HA" ∈ sources ∧ Path.ofString "gone" ∈ sources := by
  have hnamed : circle.Named := named_of_entries (by decide)
  have hreadable (p : Path) : ReadableFrom rootSurroundings circle p :=
    fun _ _ => ⟨fun _ _ => rfl, fun _ _ _ => rfl⟩
  obtain ⟨lists, hcollect, hlists⟩ := collect_spec (s := rootSurroundings) (w := { files := circle })
    hnamed [Path.ofString "d", Path.ofString "gone"] "ha".toList fun p _ => hreadable p
  obtain ⟨below, others, hbelow, hothers, rfl⟩ := List.forall₂_cons_left_iff.mp hlists
  obtain ⟨itself, others, hitself, -, rfl⟩ := List.forall₂_cons_left_iff.mp hothers
  refine ⟨hnamed, hreadable, _, hcollect, ?_, ?_⟩
  · have hlookup : circle.lookup [] (Path.ofString "d") true = .ok (["d"], .directory) := by decide
    have hfile : circle.FileBelow ["d"] ["e", "a.HA"] := by
      have hdirectory : circle.entry? ["d", "e"] = some .directory := by decide
      have hentry : circle.entry? ["d", "e", "a.HA"] = some (.file [] false) := by decide
      rw [fileBelow_cons (by decide) (by decide)]
      exact ⟨hdirectory, (fileBelow_singleton hdirectory).mpr ⟨_, _, hentry⟩⟩
    have hsource : SourceBelow circle "ha".toList ["d"] ["e", "a.HA"] :=
      ⟨hfile, ["e"], "a", "HA", by decide, by decide, by decide, by decide⟩
    have hmem := (hbelow.below _ hlookup (Path.ofString "d/e/a.HA")).mpr
      ⟨_, hsource, by decide⟩
    exact List.mem_flatten.mpr ⟨below, by simp, hmem⟩
  · have hgone : circle.isDirectory [] (Path.ofString "gone") = false := by decide
    rw [hitself.itself hgone]
    simp

end Sources

end SyntaxKit
