import SyntaxKit.Proofs.Files.Following

/-!
# Writing

Writing makes entries and changes files, but takes nothing away and makes no link
(`FileSystem.Grows`).  So a path that led somewhere before leads there afterwards, with links on the
way or without (`FileSystem.Grows.locate`), and what is said of the places that were written may be
said of the paths that lead to them in the end: `FileSystem.Writes` goes on from one operation to
the next.
-/

namespace SyntaxKit

namespace FileSystem

open SyntaxKit.Path

variable {fs fs' fs'' : FileSystem} {workingDirectory here place q : Place} {e : Entry}
  {p d source target : Path} {name : Name} {followLast : Bool}

/-! ## Growth -/

/-- Two entries are of one kind if both are directories, or both files, or both the same link. -/
def Entry.SameKind : Entry → Entry → Prop
  | .directory, .directory => True
  | .file .., .file .. => True
  | .link target, .link target' => target = target'
  | _, _ => False

theorem Entry.SameKind.refl (e : Entry) : e.SameKind e := by
  cases e <;> simp [SameKind]

theorem Entry.SameKind.trans {e e' e'' : Entry} (h : e.SameKind e') (h' : e'.SameKind e'') :
    e.SameKind e'' := by
  cases e <;> cases e' <;> cases e'' <;> simp_all [SameKind]

/-- A file system may have become another by writing: outside of some places it is the same, what
was there is still of its kind, no link has been made, and the same is refused. -/
structure Grows (changed : Place → Prop) (fs fs' : FileSystem) : Prop where
  host : fs'.host = fs.host
  same : ∀ q, ¬ changed q → fs'.entry? q = fs.entry? q
  kept : ∀ q e, fs.entry? q = some e → ∃ e', fs'.entry? q = some e' ∧ e.SameKind e'
  linked : ∀ q target, fs'.entry? q = some (.link target) → fs.entry? q = some (.link target)

namespace Grows

variable {changed changed' : Place → Prop}

theorem refl (fs : FileSystem) : Grows changed fs fs :=
  ⟨rfl, fun _ _ => rfl, fun _ e h => ⟨e, h, .refl e⟩, fun _ _ h => h⟩

theorem trans (h : Grows changed fs fs') (h' : Grows changed fs' fs'') :
    Grows changed fs fs'' where
  host := h'.host.trans h.host
  same q hq := (h'.same q hq).trans (h.same q hq)
  kept q e he := by
    obtain ⟨e', he', hkind⟩ := h.kept q e he
    obtain ⟨e'', he'', hkind'⟩ := h'.kept q e' he'
    exact ⟨e'', he'', hkind.trans hkind'⟩
  linked q target hq := h.linked q target (h'.linked q target hq)

theorem mono (h : Grows changed fs fs') (hle : ∀ q, changed q → changed' q) :
    Grows changed' fs fs' :=
  ⟨h.host, fun q hq => h.same q fun hc => hq (hle q hc), h.kept, h.linked⟩

/-- A directory stays one. -/
theorem directory (h : Grows changed fs fs') (hq : fs.entry? q = some .directory) :
    fs'.entry? q = some .directory := by
  obtain ⟨e', he', hkind⟩ := h.kept q _ hq
  cases e' with
  | directory => exact he'
  | file | link => exact hkind.elim

/-- Putting a directory or a file at a place where there is nothing, or a file where there is one,
changes only that place. -/
theorem insert (hkept : ∀ old, fs.entry? place = some old → old.SameKind e)
    (hlink : ∀ target, e ≠ .link target) (hroot : place ≠ []) :
    Grows (· = place) fs (fs.insert place e) where
  host := rfl
  same q hq := by rw [entry?_insert hroot, if_neg hq]
  kept q old hold := by
    rw [entry?_insert hroot]
    by_cases hq : q = place
    · subst hq
      exact ⟨e, if_pos rfl, hkept old hold⟩
    · exact ⟨old, (if_neg hq).trans hold, .refl old⟩
  linked q target hq := by
    rw [entry?_insert hroot] at hq
    split at hq
    · exact absurd (Option.some.inj hq) (hlink target)
    · exact hq

/-! ## Paths afterwards -/

/-- Writing leaves directories and links as they are and makes no links. -/
theorem passable (h : Grows changed fs fs') : Passable fs fs' where
  host := h.host
  directory _ := h.directory
  link q target := by
    constructor
    · intro hq
      obtain ⟨e', he', hkind⟩ := h.kept q _ hq
      cases e' with
      | directory | file => exact hkind.elim
      | link target' =>
        obtain rfl : target = target' := hkind
        exact he'
    · exact h.linked q target

/-- **A path that led somewhere leads there after writing.** -/
theorem locate (h : Grows changed fs fs')
    (hq : fs.locate workingDirectory p followLast = .ok q) :
    fs'.locate workingDirectory p followLast = .ok q :=
  h.passable.locate hq

/-- What a path led to is still of its kind. -/
theorem lookup (h : Grows changed fs fs')
    (hq : fs.lookup workingDirectory p followLast = .ok (q, e)) :
    ∃ e', fs'.lookup workingDirectory p followLast = .ok (q, e') ∧ e.SameKind e' := by
  obtain ⟨hlocate, he⟩ := lookup_eq_ok.mp hq
  obtain ⟨e', he', hkind⟩ := h.kept q e he
  exact ⟨e', lookup_eq_ok.mpr ⟨h.locate hlocate, he'⟩, hkind⟩

theorem pathExists (h : Grows changed fs fs') (hp : fs.pathExists workingDirectory p = true) :
    fs'.pathExists workingDirectory p = true := by
  obtain ⟨q, e, hq⟩ := pathExists_eq_true.mp hp
  obtain ⟨e', hq', -⟩ := h.lookup hq
  exact pathExists_eq_true.mpr ⟨q, e', hq'⟩

theorem lookup_directory (h : Grows changed fs fs')
    (hq : fs.lookup workingDirectory p followLast = .ok (q, .directory)) :
    fs'.lookup workingDirectory p followLast = .ok (q, .directory) := by
  obtain ⟨hlocate, he⟩ := lookup_eq_ok.mp hq
  exact lookup_eq_ok.mpr ⟨h.locate hlocate, h.directory he⟩

theorem isDirectory (h : Grows changed fs fs') (hp : fs.isDirectory workingDirectory p = true) :
    fs'.isDirectory workingDirectory p = true := by
  obtain ⟨q, hq⟩ := isDirectory_eq_true.mp hp
  exact isDirectory_eq_true.mpr ⟨q, h.lookup_directory hq⟩

theorem isFile (h : Grows changed fs fs') (hp : fs.isFile workingDirectory p = true) :
    fs'.isFile workingDirectory p = true := by
  obtain ⟨q, bytes, mode, hq⟩ := isFile_eq_true.mp hp
  obtain ⟨e', hq', hkind⟩ := h.lookup hq
  cases e' with
  | file bytes' mode' => exact isFile_eq_true.mpr ⟨q, bytes', mode', hq'⟩
  | directory | link => exact hkind.elim

theorem linkless (h : Grows changed fs fs') (hlinkless : fs.Linkless) : fs'.Linkless :=
  fun q target hq => hlinkless q target (h.linked q target hq)

theorem leads (h : Grows changed fs fs') {ms : List Move} (hq : Leads fs here ms q) :
    Leads fs' here ms q := by
  induction ms generalizing here with
  | nil => exact hq
  | cons m ms ih => exact ⟨h.passable.obstacle? hq.1, ih hq.2⟩

theorem searchable (h : Grows changed fs fs') (hq : fs.Searchable q) : fs'.Searchable q :=
  ⟨h.directory hq.directory, h.host ▸ hq.unbarred⟩

theorem directoryAt (h : Grows changed fs fs') (hd : DirectoryAt fs workingDirectory d q) :
    DirectoryAt fs' workingDirectory d q :=
  ⟨h.leads hd.1, h.searchable hd.2⟩

end Grows

/-! ## Written paths -/

/-- Only paths of some kind were written: what has changed is what such paths lead to afterwards. -/
def Writes (workingDirectory : Place) (written : Path → Prop) (fs fs' : FileSystem) : Prop :=
  Grows (fun q => ∃ p, written p ∧ fs'.locate workingDirectory p true = .ok q) fs fs'

namespace Writes

variable {written written' : Path → Prop}

theorem refl (fs : FileSystem) : Writes workingDirectory written fs fs := Grows.refl fs

theorem mono (h : Writes workingDirectory written fs fs') (hle : ∀ p, written p → written' p) :
    Writes workingDirectory written' fs fs' :=
  Grows.mono h fun _ ⟨p, hp, hq⟩ => ⟨p, hle p hp, hq⟩

theorem trans (h : Writes workingDirectory written fs fs')
    (h' : Writes workingDirectory written fs' fs'') : Writes workingDirectory written fs fs'' :=
  Grows.trans (Grows.mono h fun _ ⟨p, hp, hq⟩ => ⟨p, hp, Grows.locate h' hq⟩) h'

/-- A path of the same components, with the same name joined to it, is written with it. -/
theorem join_congr {d' : Path} (hlinkless : fs.Linkless) (hname : IsName name)
    (hd : d'.components = d.components) (h : Writes workingDirectory (· = d'.join ⟨name⟩) fs fs') :
    Writes workingDirectory (· = d.join ⟨name⟩) fs fs' := by
  have hlinkless' := Grows.linkless h hlinkless
  refine Grows.mono h fun q ⟨p, hp, hq⟩ => ⟨_, rfl, ?_⟩
  rw [hp, locate_join hlinkless' hname] at hq
  obtain ⟨g, hg, rfl⟩ := hq
  exact (locate_join hlinkless' hname).mpr ⟨g, hg.congr hd.symm, rfl⟩

end Writes

/-- Putting an entry where a path leads to is writing that path. -/
theorem writes_insert (hlocate : fs.locate workingDirectory p true = .ok place)
    (hplace : fs.entry? place ≠ some .directory)
    (hkept : ∀ old, fs.entry? place = some old → old.SameKind e)
    (hlink : ∀ target, e ≠ .link target) :
    Writes workingDirectory (· = p) fs (fs.insert place e) := by
  have hgrows := Grows.insert hkept hlink (ne_root hplace)
  refine hgrows.mono fun q hq => ⟨p, rfl, ?_⟩
  rw [hq]
  exact hgrows.locate hlocate

/-! ## Writing a file -/

/-- An entry is a regular file. -/
def Entry.IsFile (e : Entry) : Prop := ∃ bytes mode, e = .file bytes mode

/-- At a place there is a regular file or nothing. -/
def MayHoldFile (fs : FileSystem) (place : Place) : Prop :=
  ∀ e, fs.entry? place = some e → e.IsFile

/-- The rights to the regular file at a place, if there is one. -/
def fileMode? (fs : FileSystem) (place : Place) : Option FileMode :=
  match fs.entry? place with
  | some (.file _ mode) => some mode
  | _ => none

/-- The rights to the file at a place, or those that a new file gets. -/
def modeAt (fs : FileSystem) (new : FileMode) (place : Place) : FileMode :=
  (fs.fileMode? place).getD new

/-- What has to be allowed for the file at a place to be opened for writing: a new one has to be made. -/
def opening (fs : FileSystem) (place : Place) : Use :=
  match fs.fileMode? place with
  | none => .make
  | some mode => .write mode

/-- The file at a place may be opened for writing, or it may be made. -/
structure Writable (fs : FileSystem) (place : Place) : Prop where
  mayHoldFile : fs.MayHoldFile place
  allowed : fs.host.refusal? place (fs.opening place) = none

theorem MayHoldFile.ne_directory (h : fs.MayHoldFile place) :
    fs.entry? place ≠ some .directory := by
  intro hplace
  obtain ⟨bytes, mode, he⟩ := h _ hplace
  cases he

theorem MayHoldFile.ne_link (h : fs.MayHoldFile place) (target : Path) :
    fs.entry? place ≠ some (.link target) := by
  intro hplace
  obtain ⟨bytes, mode, he⟩ := h _ hplace
  cases he

theorem openAt_eq_ok {new mode : FileMode} :
    fs.openAt place new = .ok mode ↔ fs.Writable place ∧ mode = fs.modeAt new place := by
  have hwritable (h : fs.MayHoldFile place) :
      fs.Writable place ↔ fs.host.refusal? place (fs.opening place) = none :=
    ⟨Writable.allowed, fun hallowed => ⟨h, hallowed⟩⟩
  cases hplace : fs.entry? place with
  | none =>
    rw [openAt, hwritable (by simp [MayHoldFile, hplace]), opening, modeAt, fileMode?, hplace]
    exact permit_eq_ok
  | some e =>
    cases e with
    | file bytes old =>
      rw [openAt, hwritable (by simp [MayHoldFile, Entry.IsFile, hplace]), opening, modeAt, fileMode?,
        hplace]
      exact permit_eq_ok
    | directory =>
      have hnot : ¬ fs.Writable place := fun h => h.mayHoldFile.ne_directory hplace
      simp [openAt, hplace, hnot]
    | link target =>
      have hnot : ¬ fs.Writable place := fun h => h.mayHoldFile.ne_link target hplace
      simp [openAt, hplace, hnot]

/-- **A file is filled with all bytes or, if that breaks off, with some of them from the start.** -/
theorem fill_cases (fs : FileSystem) (place : Place) (mode : FileMode) (bytes : List UInt8) :
    fs.host.breakOff? fs.entry? place bytes = none
        ∧ fs.fill place mode bytes = (none, fs.insert place (.file bytes mode))
      ∨ ∃ r kept, kept <+: bytes
        ∧ fs.fill place mode bytes = (some (.refused r), fs.insert place (.file kept mode)) := by
  rw [fill]
  cases fs.host.breakOff? fs.entry? place bytes with
  | none => exact .inl ⟨rfl, rfl⟩
  | some broken => exact .inr ⟨broken.2, _, List.take_prefix broken.1 bytes, rfl⟩

theorem fill_eq_none {mode : FileMode} {bytes : List UInt8} :
    fs.fill place mode bytes = (none, fs') ↔
      fs.host.breakOff? fs.entry? place bytes = none
        ∧ fs' = fs.insert place (.file bytes mode) := by
  rw [fill]
  cases fs.host.breakOff? fs.entry? place bytes <;> simp [eq_comm]

/-- Nothing keeps the emptied file at a place from being filled with some bytes. -/
def Fills (fs : FileSystem) (place : Place) (mode : FileMode) (bytes : List UInt8) : Prop :=
  fs.host.breakOff? (FileSystem.entry? (fs.insert place (.file [] mode))) place bytes = none

/-- Nothing keeps some bytes from being written to the file at a place. -/
structure Takes (fs : FileSystem) (place : Place) (bytes : List UInt8) : Prop where
  writable : fs.Writable place
  fills : fs.Fills place (fs.modeAt fs.host.newMode place) bytes

/-- **To write is to put a file where the path leads**, which only a file may have been before, if nothing
keeps it from that. -/
theorem write_eq_none {bytes : List UInt8} : fs.write workingDirectory p bytes = (none, fs') ↔
    ∃ place, fs.locate workingDirectory p true = .ok place ∧ fs.Takes place bytes
      ∧ fs' = fs.insert place (.file bytes (fs.modeAt fs.host.newMode place)) := by
  rw [write]
  cases fs.locate workingDirectory p true with
  | error e => simp
  | ok place =>
    simp only [Except.ok.injEq, exists_eq_left']
    cases hopen : fs.openAt place fs.host.newMode with
    | error e =>
      have hnot : ¬ fs.Takes place bytes := fun h => by
        rw [openAt_eq_ok.mpr ⟨h.writable, rfl⟩] at hopen
        cases hopen
      simp [hnot]
    | ok mode =>
      obtain ⟨hwritable, rfl⟩ := openAt_eq_ok.mp hopen
      have htakes : fs.Takes place bytes ↔ fs.Fills place (fs.modeAt fs.host.newMode place) bytes :=
        ⟨Takes.fills, fun hfills => ⟨hwritable, hfills⟩⟩
      simp only [fill_eq_none, htakes, insert_insert]
      rfl

/-- A file that could not be written is as it was, or the writing broke off and it holds some of the bytes
from the start. -/
theorem write_eq_some {bytes : List UInt8} {e : FileError}
    (h : fs.write workingDirectory p bytes = (some e, fs')) :
    fs' = fs ∨ ∃ place r kept, fs.locate workingDirectory p true = .ok place ∧ fs.Writable place
      ∧ kept <+: bytes ∧ e = .refused r
      ∧ fs' = fs.insert place (.file kept (fs.modeAt fs.host.newMode place)) := by
  rw [write] at h
  split at h
  · exact .inl (Prod.mk.inj h).2.symm
  · next place hlocate =>
    split at h
    · exact .inl (Prod.mk.inj h).2.symm
    · next mode hopen =>
      obtain ⟨hwritable, rfl⟩ := openAt_eq_ok.mp hopen
      rcases fill_cases (fs.insert place (.file [] (fs.modeAt fs.host.newMode place))) place
        (fs.modeAt fs.host.newMode place) bytes with ⟨-, hfill⟩ | ⟨r, kept, hkept, hfill⟩
      · rw [hfill] at h
        simp at h
      · rw [hfill, Prod.mk.injEq, insert_insert] at h
        exact .inr ⟨place, r, kept, hlocate, hwritable, hkept, (Option.some.inj h.1).symm, h.2.symm⟩

/-- **What writing leaves**: the file system as it was, or where the path leads a file with the bytes or
some of them from the start. -/
theorem write_files (fs : FileSystem) (workingDirectory : Place) (p : Path) (bytes : List UInt8) :
    (fs.write workingDirectory p bytes).2 = fs
      ∨ ∃ place kept, fs.locate workingDirectory p true = .ok place ∧ fs.Writable place
        ∧ kept <+: bytes ∧ (fs.write workingDirectory p bytes).2
          = fs.insert place (.file kept (fs.modeAt fs.host.newMode place)) := by
  generalize hwrite : fs.write workingDirectory p bytes = result
  obtain ⟨_ | e, fs'⟩ := result
  · obtain ⟨place, hlocate, htakes, rfl⟩ := write_eq_none.mp hwrite
    exact .inr ⟨place, bytes, hlocate, htakes.writable, List.prefix_refl _, rfl⟩
  · rcases write_eq_some hwrite with hsame | ⟨place, r, kept, hlocate, hplace, hkept, -, hfiles⟩
    · exact .inl hsame
    · exact .inr ⟨place, kept, hlocate, hplace, hkept, hfiles⟩

/-- A file that is put where a path leads to a file or to nothing is written. -/
theorem writes_insert_file {bytes : List UInt8} {mode : FileMode}
    (hlocate : fs.locate workingDirectory p true = .ok place) (hplace : fs.MayHoldFile place) :
    Writes workingDirectory (· = p) fs (fs.insert place (.file bytes mode)) := by
  refine writes_insert hlocate hplace.ne_directory (fun old hold => ?_) (by simp)
  obtain ⟨bytes, mode, rfl⟩ := hplace old hold
  trivial

theorem writes_write (fs : FileSystem) (workingDirectory : Place) (p : Path) (bytes : List UInt8) :
    Writes workingDirectory (· = p) fs (fs.write workingDirectory p bytes).2 := by
  rcases write_files fs workingDirectory p bytes with
    hsame | ⟨place, kept, hlocate, hwritable, -, hfiles⟩
  · rw [hsame]
    exact .refl fs
  · rw [hfiles]
    exact writes_insert_file hlocate hwritable.mayHoldFile

/-- Two file systems differ at most in a file at one place: in whether it is there, in what it holds
and in the rights to it. -/
structure SameBut (place : Place) (fs fs' : FileSystem) : Prop where
  host : fs'.host = fs.host
  same : ∀ q, q ≠ place → fs'.entry? q = fs.entry? q
  before : fs.MayHoldFile place
  after : fs'.MayHoldFile place

namespace SameBut

theorem passable (h : SameBut place fs fs') : Passable fs fs' where
  host := h.host
  directory q hq := by
    rw [h.same q fun hplace => h.before.ne_directory (hplace ▸ hq), hq]
  link q target := by
    constructor
    · intro hq
      rw [h.same q fun hplace => h.before.ne_link target (hplace ▸ hq), hq]
    · intro hq
      rw [← h.same q fun hplace => h.after.ne_link target (hplace ▸ hq), hq]

/-- What is there and is no such file is there in the other one. -/
theorem lookup (h : SameBut place fs fs')
    (hq : fs.lookup workingDirectory p followLast = .ok (q, e)) (hne : q ≠ place) :
    fs'.lookup workingDirectory p followLast = .ok (q, e) := by
  obtain ⟨hlocate, hentry⟩ := lookup_eq_ok.mp hq
  exact lookup_eq_ok.mpr ⟨h.passable.locate hlocate, (h.same q hne).trans hentry⟩

/-- Where nothing is different but what a file holds, it takes the same bytes. -/
theorem takes {bytes : List UInt8} (h : SameBut place fs fs')
    (hmode : fs'.fileMode? place = fs.fileMode? place) (htakes : fs.Takes place bytes) :
    fs'.Takes place bytes where
  writable := by
    refine ⟨h.after, ?_⟩
    rw [h.host, opening, hmode, ← opening]
    exact htakes.writable.allowed
  fills := by
    have hview : entry? (fs'.insert place (.file [] (fs'.modeAt fs'.host.newMode place)))
        = entry? (fs.insert place (.file [] (fs.modeAt fs.host.newMode place))) := by
      funext q
      rw [entry?_insert (ne_root h.after.ne_directory), entry?_insert (ne_root h.after.ne_directory),
        modeAt, hmode, h.host, ← modeAt]
      by_cases hq : q = place
      · rw [if_pos hq, if_pos hq]
      · rw [if_neg hq, if_neg hq, h.same q hq]
    rw [Fills, hview, h.host]
    exact htakes.fills

end SameBut

/-- Writing a file makes a difference only where it is. -/
theorem sameBut_insert (h : fs.MayHoldFile place) (bytes : List UInt8) (mode : FileMode) :
    SameBut place fs (fs.insert place (.file bytes mode)) where
  host := rfl
  same q hq := by rw [entry?_insert (ne_root h.ne_directory), if_neg hq]
  before := h
  after e he := by
    rw [entry?_insert (ne_root h.ne_directory), if_pos rfl] at he
    exact ⟨bytes, mode, (Option.some.inj he).symm⟩

/-- Taking a file away makes a difference only where it was. -/
theorem sameBut_erase (h : fs.MayHoldFile place) : SameBut place fs (fs.erase place) where
  host := rfl
  same q hq := by rw [entry?_erase (ne_root h.ne_directory), if_neg hq]
  before := h
  after e he := by simp [entry?_erase (ne_root h.ne_directory)] at he

/-! ## Making a directory and copying a file -/

theorem writes_makeDirectory (hlinkless : fs.Linkless)
    (h : fs.makeDirectory workingDirectory p = .ok fs') :
    Writes workingDirectory (· = p) fs fs' := by
  rw [makeDirectory] at h
  split at h
  · simp at h
  · next place hlocate =>
    split at h
    · next hnone =>
      obtain ⟨-, rfl⟩ := permit_eq_ok.mp h
      rw [locate_eq_ok hlinkless] at hlocate
      exact writes_insert ((locate_eq_ok hlinkless).mpr hlocate) (by simp [hnone]) (by simp [hnone])
        (by simp)
    · simp at h

/-- A copy is begun where the source may be read and the target may be written. -/
theorem openCopy_eq_ok {c : Copying} :
    fs.openCopy workingDirectory source target = .ok c ↔
      (∃ bytes, fs.lookup workingDirectory source true = .ok (c.origin, .file bytes c.mode))
        ∧ fs.host.refusal? c.origin (.read c.mode) = none
        ∧ fs.locate workingDirectory target true = .ok c.place ∧ fs.Writable c.place
        ∧ c.old = fs.modeAt c.mode c.place := by
  rw [openCopy]
  cases fs.lookup workingDirectory source true with
  | error e => simp
  | ok found =>
    obtain ⟨origin, e⟩ := found
    cases e with
    | directory => simp [bind_eq_ok, throw, throwThe, MonadExceptOf.throw]
    | link t => simp
    | file bytes mode =>
      simp only [bind_eq_ok, permit_eq_ok, pure, Except.pure, Except.ok.injEq]
      constructor
      · rintro ⟨-, ⟨hread, -⟩, place, hplace, old, hopen, rfl⟩
        exact ⟨⟨bytes, rfl⟩, hread, hplace, openAt_eq_ok.mp hopen⟩
      · rintro ⟨⟨bytes', heq⟩, hread, hplace, hopen⟩
        obtain ⟨rfl, rfl, rfl⟩ : origin = c.origin ∧ bytes = bytes' ∧ mode = c.mode := by
          simpa using heq
        exact ⟨(), ⟨hread, trivial⟩, c.place, hplace, c.old, openAt_eq_ok.mpr hopen, rfl⟩

/-- The target of a copy is filled with the bytes of the source or some of them from the start.  It gets
the rights to the source, unless it stays empty. -/
theorem fillCopy_files {c : Copying} {bytes : List UInt8}
    (horigin : fs.entry? c.origin = some (.file bytes c.mode)) (hroot : c.place ≠ []) :
    ∃ kept mode', kept <+: bytes ∧ (mode' = c.mode ∨ kept = [])
      ∧ (fs.fillCopy c).2 = fs.insert c.place (.file kept mode') := by
  rw [fillCopy]
  split
  · exact ⟨[], c.old, List.nil_prefix, .inr rfl, rfl⟩
  · dsimp only
    split
    · next read mode hread =>
      -- the source is read after the target has been emptied
      have hprefix : read <+: bytes := by
        rw [entry?_insert hroot, horigin] at hread
        split at hread
        · obtain ⟨rfl, -⟩ := Entry.file.inj (Option.some.inj hread)
          exact List.nil_prefix
        · obtain ⟨rfl, -⟩ := Entry.file.inj (Option.some.inj hread)
          exact List.prefix_refl _
      rcases fill_cases (fs.insert c.place (.file [] c.mode)) c.place c.mode read with
        ⟨-, hfill⟩ | ⟨r, kept, hkept, hfill⟩
      · exact ⟨read, c.mode, hprefix, .inl rfl, by rw [hfill, insert_insert]⟩
      · exact ⟨kept, c.mode, hkept.trans hprefix, .inl rfl, by rw [hfill, insert_insert]⟩
    · exact ⟨[], c.mode, List.nil_prefix, .inr rfl, rfl⟩

/-- **What copying leaves**: the file system as it was, or where the target leads a file with the bytes of
the source or some of them from the start. -/
theorem copy_files (fs : FileSystem) (workingDirectory : Place) (source target : Path) :
    (fs.copy workingDirectory source target).2 = fs
      ∨ ∃ origin bytes mode place kept mode',
        fs.lookup workingDirectory source true = .ok (origin, .file bytes mode)
          ∧ fs.locate workingDirectory target true = .ok place ∧ fs.Writable place
          ∧ kept <+: bytes ∧ (mode' = mode ∨ kept = [])
          ∧ (fs.copy workingDirectory source target).2 = fs.insert place (.file kept mode') := by
  rw [copy]
  cases hopen : fs.openCopy workingDirectory source target with
  | error e => exact .inl rfl
  | ok c =>
    obtain ⟨⟨bytes, hsource⟩, -, hlocate, hwritable, -⟩ := openCopy_eq_ok.mp hopen
    obtain ⟨kept, mode', hkept, hmode, hfiles⟩ := fillCopy_files (entry?_of_lookup hsource)
      (ne_root hwritable.mayHoldFile.ne_directory)
    exact .inr ⟨c.origin, bytes, c.mode, c.place, kept, mode', hsource, hlocate, hwritable, hkept,
      hmode, hfiles⟩

theorem writes_copy (fs : FileSystem) (workingDirectory : Place) (source target : Path) :
    Writes workingDirectory (· = target) fs (fs.copy workingDirectory source target).2 := by
  rcases copy_files fs workingDirectory source target with
    hsame | ⟨origin, bytes, mode, place, kept, mode', -, hlocate, hwritable, -, -, hfiles⟩
  · rw [hsame]
    exact .refl fs
  · rw [hfiles]
    exact writes_insert_file hlocate hwritable.mayHoldFile

/-! ## Making directories -/

theorem makeDirectory_ne_notFound (h : fs.locate workingDirectory p false ≠ .error .notFound) :
    fs.makeDirectory workingDirectory p ≠ .error .notFound := by
  rw [makeDirectory]
  cases hlocate : fs.locate workingDirectory p false with
  | error e =>
    rw [hlocate] at h
    simpa using h
  | ok place =>
    dsimp only
    cases fs.entry? place with
    | none =>
      intro hmade
      obtain ⟨r, -, hcause⟩ := permit_eq_error.mp hmade
      simp at hcause
    | some e => simp

/-- If a directory can be made or is in the way, none of those above it is made. -/
theorem writes_makeDirectoriesFrom (hlinkless : fs.Linkless)
    (h : fs.makeDirectory workingDirectory p ≠ .error .notFound) (above : List Path) :
    Writes workingDirectory (· = p) fs (makeDirectoriesFrom fs workingDirectory p above).2 := by
  rw [makeDirectoriesFrom.eq_def]
  dsimp only
  by_cases hempty : p.bytes = []
  · rw [if_pos hempty]
    exact .refl fs
  · rw [if_neg hempty]
    split
    · next hmade => exact writes_makeDirectory hlinkless hmade
    · next hnotFound => exact absurd hnotFound h
    · exact .refl fs

/-- In a directory that is there, at most one that may not be searched keeps a name from leading to its
place. -/
theorem locate_join_ne_notFound (hlinkless : fs.Linkless) (hname : IsName name)
    (hd : fs.lookup workingDirectory d true = .ok (place, .directory)) :
    fs.locate workingDirectory (d.join ⟨name⟩) followLast ≠ .error .notFound := by
  cases hsearch : fs.host.refusal? place .search with
  | none =>
    rw [(locate_join hlinkless hname).mpr
      ⟨place, ((lookup_eq_directory hlinkless hsearch).mp hd).2, rfl⟩]
    simp
  | some r =>
    rw [locate_join_eq_refused hlinkless hname hd hsearch]
    simp

/-- **To make a directory in one that is there is all that is done.** -/
theorem writes_makeDirectories (hlinkless : fs.Linkless) (hname : IsName name)
    (hd : fs.lookup workingDirectory d true = .ok (place, .directory)) :
    Writes workingDirectory (· = d.join ⟨name⟩) fs
      (fs.makeDirectories workingDirectory (d.join ⟨name⟩)).2 :=
  writes_makeDirectoriesFrom hlinkless
    (makeDirectory_ne_notFound (locate_join_ne_notFound hlinkless hname hd)) _

theorem pathsAbove_join (hname : IsName name) :
    ∃ rest, pathsAbove (d.join ⟨name⟩) = ofComponents d.components :: rest := by
  rw [pathsAbove, components_join hname, List.length_append, List.length_singleton,
    List.range_succ, List.reverse_append, List.reverse_singleton, List.singleton_append,
    List.map_cons, List.take_left]
  exact ⟨_, rfl⟩

/-- **To make a directory two steps below one that is there makes at most two directories.** -/
theorem writes_makeDirectories_join {name' : Name} (hlinkless : fs.Linkless) (hname : IsName name)
    (hname' : IsName name') (hd : fs.lookup workingDirectory d true = .ok (place, .directory)) :
    Writes workingDirectory (fun p => p = d.join ⟨name⟩ ∨ p = (d.join ⟨name⟩).join ⟨name'⟩) fs
      (fs.makeDirectories workingDirectory ((d.join ⟨name⟩).join ⟨name'⟩)).2 := by
  cases hsearch : fs.host.refusal? place .search with
  | some r =>
    refine (writes_makeDirectoriesFrom hlinkless (makeDirectory_ne_notFound ?_) _).mono fun _ => .inr
    rw [locate_join_join_eq_refused hlinkless hname hname' hd hsearch]
    simp
  | none =>
    obtain ⟨rest, habove⟩ := pathsAbove_join (d := d.join ⟨name⟩) hname'
    rw [components_join hname, ofComponents_concat] at habove
    -- the path taken for the upper directory has the same components, but maybe not the same bytes
    have hd' := ((lookup_eq_directory hlinkless hsearch).mp hd).2.congr (components_ofComponents d)
    have hfound : fs.locate workingDirectory ((ofComponents d.components).join ⟨name⟩) false
        ≠ .error .notFound := by
      rw [(locate_join hlinkless hname).mpr ⟨place, hd', rfl⟩]
      simp
    have hupper : Writes workingDirectory (· = d.join ⟨name⟩) fs (makeDirectoriesFrom fs
        workingDirectory ((ofComponents d.components).join ⟨name⟩) rest).2 :=
      (writes_makeDirectoriesFrom hlinkless (makeDirectory_ne_notFound hfound) rest).join_congr
        hlinkless hname (components_ofComponents d)
    have hlower {fs₁ fs₂ : FileSystem} (hlinkless₁ : fs₁.Linkless)
        (hmade : fs₁.makeDirectory workingDirectory ((d.join ⟨name⟩).join ⟨name'⟩) = .ok fs₂) :
        Writes workingDirectory (fun p => p = d.join ⟨name⟩ ∨ p = (d.join ⟨name⟩).join ⟨name'⟩)
          fs₁ fs₂ :=
      (writes_makeDirectory hlinkless₁ hmade).mono fun _ => .inr
    rw [makeDirectories, habove, makeDirectoriesFrom.eq_def]
    dsimp only [Component.bytes]
    rw [if_neg (bytes_join_ne_nil hname'.toIsPart)]
    split
    · next hmade => exact hlower hlinkless hmade
    · generalize makeDirectoriesFrom fs workingDirectory ((ofComponents d.components).join ⟨name⟩)
        rest = result at hupper ⊢
      obtain ⟨fault, fs₁⟩ := result
      have hbefore : Writes workingDirectory
          (fun p => p = d.join ⟨name⟩ ∨ p = (d.join ⟨name⟩).join ⟨name'⟩) fs fs₁ :=
        hupper.mono fun _ => .inl
      cases fault with
      | some e => exact hbefore
      | none =>
        dsimp only
        split
        · next hmade => exact hbefore.trans (hlower (Grows.linkless hbefore hlinkless) hmade)
        · exact hbefore
    · exact .refl fs

end FileSystem

end SyntaxKit
