import SyntaxKit.Proofs.Deployment.Frame
import SyntaxKit.Proofs.Files.Absolute

/-!
# Resolving the checkout

A given path is made absolute and has to be that of a checkout before anything is written, and the
last thing that is done is to save it.  So a path that is rejected leaves all files as they are, and
which path was saved before makes no difference to what comes of a given one
(`Deployment.resolve_spec`).

There is one way in which it does make a difference: the list of languages of the checkout may be a
link to the file that keeps the saved path.  While that file is there the checkout is one, and when
it is gone it is none.

A saved path is made absolute once more when it is read.  That does not change it, since making a
path absolute is a projection (`Deployment.absolute_idempotent`).
-/

namespace SyntaxKit

namespace Deployment

open FileSystem

variable {grammar given p : Path} {s : Surroundings} {w w' : World} {fs fs' : FileSystem}
  {place : Place}

/-! ## Making a path absolute -/

theorem run_absolute (p : Path) (s : Surroundings) (w : World) :
    absolute p s w = match (p.expandHome s.home).absolute? s.workingDirectory.path with
      | some q => (.ok q, w)
      | none => (.error (.file p .emptyPath), w) := by
  rw [absolute, Task.run_bind_of_ok (Task.run_look _)]
  cases (p.expandHome s.home).absolute? s.workingDirectory.path <;> rfl

/-- A path in normal form is not changed, whatever the surroundings. -/
theorem run_absolute_of_isNormal (h : p.IsNormal) (s : Surroundings) (w : World) :
    absolute p s w = (.ok p, w) := by
  rw [run_absolute, Path.expandHome_of_isAbsolute h.isAbsolute, h.absolute?_eq]

/-- **Making a path absolute is a projection.**  It fails just for a path that is empty once the
home directory is put in.  Else it gives an absolute path, and that one is left as it is when it is
made absolute again, whatever the home and the working directory are then.  The path of a working
directory has no `.` in it, and no empty names. -/
theorem absolute_idempotent (hparts : ∀ name ∈ s.workingDirectory, Path.IsPart name) (p : Path)
    (w : World) :
    ((p.expandHome s.home).bytes = [] → absolute p s w = (.error (.file p .emptyPath), w))
      ∧ ((p.expandHome s.home).bytes ≠ [] → ∃ q, absolute p s w = (.ok q, w) ∧ q.isAbsolute = true
        ∧ ∀ s' w', absolute q s' w' = (.ok q, w')) := by
  rw [run_absolute]
  constructor
  · intro hempty
    rw [Path.absolute?_eq_none_iff.mpr hempty]
  · intro hne
    obtain ⟨q, hq⟩ : ∃ q, (p.expandHome s.home).absolute? s.workingDirectory.path = some q :=
      Option.ne_none_iff_exists'.mp (mt Path.absolute?_eq_none_iff.mp hne)
    rw [hq]
    have hnormal : q.IsNormal := by
      rw [Place.path_eq] at hq
      exact Path.isNormal_of_absolute? (.inl rfl) hparts hq
    exact ⟨q, rfl, hnormal.isAbsolute, run_absolute_of_isNormal hnormal⟩

/-- Surroundings with a home directory that is not absolute. -/
def homelySurroundings : Surroundings where
  workingDirectory := ["w"]
  home := some (.ofString "h/")
  tool := fun _ _ fs => (.notStarted .notFound, fs)

/-- A path below a home directory that is not absolute, with slashes and points that do not
count. -/
theorem absolute_idempotent_home :
    (∀ name ∈ homelySurroundings.workingDirectory, Path.IsPart name)
      ∧ ((Path.ofString "~//x/./../").expandHome homelySurroundings.home).bytes ≠ []
      ∧ ∀ w, absolute (.ofString "~//x/./../") homelySurroundings w
          = (.ok (.ofString "/w/h/x/.."), w)
        ∧ ∀ s' w', absolute (.ofString "/w/h/x/..") s' w' = (.ok (.ofString "/w/h/x/.."), w') := by
  have hparts : ∀ name ∈ homelySurroundings.workingDirectory, Path.IsPart name := by
    rintro name (_ | ⟨_, ⟨⟩⟩)
    exact ⟨by decide, by decide, by decide⟩
  have hne : ((Path.ofString "~//x/./../").expandHome homelySurroundings.home).bytes ≠ [] := by
    decide
  refine ⟨hparts, hne, fun w => ?_⟩
  obtain ⟨q, hrun, -, hagain⟩ := (absolute_idempotent hparts (.ofString "~//x/./../") w).2 hne
  have hresult : absolute (.ofString "~//x/./../") homelySurroundings w
      = (.ok (.ofString "/w/h/x/.."), w) := rfl
  obtain rfl : q = .ofString "/w/h/x/.." :=
    Except.ok.inj (Prod.mk.inj (hrun.symm.trans hresult)).1
  exact ⟨hresult, hagain⟩

/-! ## What the stages come to -/

/-- What is noted of a path that is that of a checkout. -/
def validNote (p : Path) : Note :=
  .event (event .debug "Valid Helix checkout" [("path", toString p)])

theorem run_validate (p : Path) (s : Surroundings) (w : World) :
    validate p s w = match checkoutFault? s w.files p with
      | some cause => (.error (.deployment .validate cause), w)
      | none => (.ok (), { w with notes := w.notes ++ [validNote p] }) := by
  rw [validate, Task.run_bind_of_ok (Task.run_look _)]
  cases checkoutFault? s w.files p <;> rfl

/-- What is noted of a path that was saved. -/
def savedNote (grammar : Path) : Note :=
  .event (event .info "Saved Helix path" [("file", toString (savedPathFile grammar))])

theorem run_save (grammar checkout : Path) (s : Surroundings) (w : World) :
    save grammar checkout s w
      = match w.files.write s.workingDirectory (savedPathFile grammar) (savedBytes checkout) with
        | (none, files) => (.ok (), { files, notes := w.notes ++ [savedNote grammar] })
        | (some e, files) => (.error (.file (savedPathFile grammar) e), { w with files }) := by
  rw [save, Task.run_bind_of_ok (Task.run_changePartly _)]
  generalize w.files.write s.workingDirectory (savedPathFile grammar) (savedBytes checkout) = result
  obtain ⟨_ | e, files⟩ := result <;> rfl

/-- **A given path is made absolute, then validated, then saved**, and nothing is done after what
fails. -/
theorem run_resolve_given (grammar given : Path) (s : Surroundings) (w : World) :
    resolve grammar (some given) s w
      = match (given.expandHome s.home).absolute? s.workingDirectory.path with
        | none => (.error (.file given .emptyPath), w)
        | some p =>
          match checkoutFault? s w.files p with
          | some cause => (.error (.deployment .validate cause), w)
          | none =>
            match w.files.write s.workingDirectory (savedPathFile grammar) (savedBytes p) with
            | (some e, files) =>
              (.error (.file (savedPathFile grammar) e),
                { files, notes := w.notes ++ [validNote p] })
            | (none, files) =>
              (.ok p, { files, notes := w.notes ++ [validNote p] ++ [savedNote grammar] }) := by
  rw [resolve, Task.run_bind, run_absolute]
  cases (given.expandHome s.home).absolute? s.workingDirectory.path with
  | none => rfl
  | some p =>
    dsimp only
    rw [Task.run_bind, run_validate]
    cases checkoutFault? s w.files p with
    | some cause => rfl
    | none =>
      dsimp only
      rw [Task.run_bind, run_save]
      dsimp only
      generalize w.files.write s.workingDirectory (savedPathFile grammar) (savedBytes p) = result
      obtain ⟨_ | e, files⟩ := result <;> rfl

/-- A given path is resolved if it is that of a checkout and can be saved. -/
theorem resolve_given_eq_ok :
    (∃ w', resolve grammar (some given) s w = (.ok p, w') ∧ w'.files = fs')
      ↔ (given.expandHome s.home).absolute? s.workingDirectory.path = some p
        ∧ checkoutFault? s w.files p = none
        ∧ w.files.write s.workingDirectory (savedPathFile grammar) (savedBytes p)
          = (none, fs') := by
  rw [run_resolve_given]
  constructor
  · rintro ⟨w', hrun, rfl⟩
    split at hrun
    · simp at hrun
    · next q habsolute =>
      split at hrun
      · simp at hrun
      · next hvalid =>
        split at hrun
        · simp at hrun
        · next files hwrite =>
          obtain ⟨hq, rfl⟩ := Prod.mk.inj hrun
          obtain rfl := Except.ok.inj hq
          exact ⟨habsolute, hvalid, hwrite⟩
  · rintro ⟨habsolute, hvalid, hwrite⟩
    simp only [habsolute, hvalid, hwrite]
    exact ⟨_, rfl, rfl⟩

/-- A given path that is rejected leaves all files as they are, unless it is that of a checkout and
saving it fails. -/
theorem files_of_resolve_error {e : Failure}
    (h : resolve grammar (some given) s w = (.error e, w')) :
    w'.files = w.files ∨ ∃ p cause,
      (given.expandHome s.home).absolute? s.workingDirectory.path = some p
        ∧ checkoutFault? s w.files p = none ∧ e = .file (savedPathFile grammar) cause
        ∧ w.files.write s.workingDirectory (savedPathFile grammar) (savedBytes p)
          = (some cause, w'.files) := by
  rw [run_resolve_given] at h
  split at h
  · exact .inl (congrArg World.files (Prod.mk.inj h).2.symm)
  · next p habsolute =>
    split at h
    · exact .inl (congrArg World.files (Prod.mk.inj h).2.symm)
    · next hvalid =>
      split at h
      · next cause files hwrite =>
        obtain ⟨he, rfl⟩ := Prod.mk.inj h
        exact .inr ⟨p, cause, habsolute, hvalid, (Except.error.inj he).symm, hwrite⟩
      · simp at h

/-- Without a given path nothing is written. -/
theorem still_resolve_saved (grammar : Path) : (resolve grammar none).Still := by
  refine (still_loadSaved grammar).bind fun saved => ?_
  cases saved with
  | none => exact .fail _
  | some p => exact (Task.Still.record _).bind fun _ => (still_validate p).bind fun _ => .pure _

/-! ## Checkouts where one file differs -/

theorem checkoutFault?_eq_none : checkoutFault? s fs p = none ↔
    fs.pathExists s.workingDirectory p = true
      ∧ fs.isDirectory s.workingDirectory (p.child "runtime") = true
      ∧ fs.isFile s.workingDirectory (p.child "languages.toml") = true := by
  rw [checkoutFault?]
  cases fs.pathExists s.workingDirectory p <;>
    cases fs.isDirectory s.workingDirectory (p.child "runtime") <;>
    cases fs.isFile s.workingDirectory (p.child "languages.toml") <;> simp

/-- The list of languages of a checkout is a link to the file at a place, and that is gone. -/
def LanguagesGone (s : Surroundings) (fs fs' : FileSystem) (p : Path) (place : Place) : Prop :=
  fs.locate s.workingDirectory (p.child "languages.toml") true = .ok place ∧ fs'.entry? place = none

/-- **A checkout is one whatever a file in it holds**, and also if it is not there, unless it stands
for the list of languages. -/
theorem checkoutFault?_of_sameBut (h : SameBut place fs fs')
    (hvalid : checkoutFault? s fs p = none) :
    checkoutFault? s fs' p = none ∧ ¬ LanguagesGone s fs fs' p place
      ∨ checkoutFault? s fs' p = some (.languagesMissing p) ∧ LanguagesGone s fs fs' p place := by
  obtain ⟨hexists, hruntime, hlanguages⟩ := checkoutFault?_eq_none.mp hvalid
  obtain ⟨q, e, hq⟩ := pathExists_eq_true.mp hexists
  obtain ⟨r, hr⟩ := isDirectory_eq_true.mp hruntime
  obtain ⟨l, bytes, mode, hl⟩ := isFile_eq_true.mp hlanguages
  -- the path and the runtime lead to directories, so they do not lead to the file
  have hdirectory : fs.entry? q = some .directory :=
    directory_of_locate_join (by decide) (lookup_eq_ok.mp hq).1 (lookup_eq_ok.mp hr).1
  have hqplace : q ≠ place := fun hplace => h.before.ne_directory (hplace ▸ hdirectory)
  have hrplace : r ≠ place :=
    fun hplace => h.before.ne_directory (hplace ▸ (lookup_eq_ok.mp hr).2)
  have hexists' : fs'.pathExists s.workingDirectory p = true :=
    pathExists_eq_true.mpr ⟨q, e, h.lookup hq hqplace⟩
  have hruntime' : fs'.isDirectory s.workingDirectory (p.child "runtime") = true :=
    isDirectory_eq_true.mpr ⟨r, h.lookup hr hrplace⟩
  obtain ⟨hlocate, hentry⟩ := lookup_eq_ok.mp hl
  have hlocate' := h.passable.locate hlocate
  by_cases hgone : LanguagesGone s fs fs' p place
  · refine .inr ⟨?_, hgone⟩
    obtain rfl := Except.ok.inj (hgone.1.symm.trans hlocate)
    have hnot : fs'.isFile s.workingDirectory (p.child "languages.toml") = false := by
      rw [isFile, FileSystem.lookup, hlocate']
      simp only [hgone.2]
    rw [checkoutFault?, hexists', hruntime', hnot]
    rfl
  · refine .inl ⟨checkoutFault?_eq_none.mpr ⟨hexists', hruntime', ?_⟩, hgone⟩
    by_cases hlplace : l = place
    · subst hlplace
      cases hafter : fs'.entry? l with
      | none => exact absurd ⟨hlocate, hafter⟩ hgone
      | some e =>
        obtain ⟨bytes', mode', rfl⟩ := h.after e hafter
        exact isFile_eq_true.mpr ⟨l, bytes', mode', lookup_eq_ok.mpr ⟨hlocate', hafter⟩⟩
    · exact isFile_eq_true.mpr ⟨l, bytes, mode, h.lookup hl hlplace⟩

/-! ## Saving -/

/-- Where a path is saved, or would be: there is a regular file or nothing. -/
theorem locate_savedPathFile (hsaved : ∀ place e,
      fs.lookup s.workingDirectory (savedPathFile grammar) false = .ok (place, e) → e.IsFile) :
    fs.locate s.workingDirectory (savedPathFile grammar) true
      = fs.locate s.workingDirectory (savedPathFile grammar) false := by
  refine locate_true_eq fun q target hq htarget => ?_
  obtain ⟨bytes, mode, he⟩ := hsaved q _ (lookup_eq_ok.mpr ⟨hq, htarget⟩)
  cases he

/-- A given path that was resolved is resolved likewise where the file with the saved path is
another one, if it can be saved there and no list of languages is gone with it. -/
theorem exists_resolve_of_sameBut {w₂ : World}
    (habsolute : (given.expandHome s.home).absolute? s.workingDirectory.path = some p)
    (hvalid : checkoutFault? s w.files p = none)
    (hlocate : w.files.locate s.workingDirectory (savedPathFile grammar) true = .ok place)
    (hsame : SameBut place w.files w₂.files) (hgone : ¬ LanguagesGone s w.files w₂.files p place)
    (htakes : w₂.files.Takes place (savedBytes p)) :
    ∃ w₂', resolve grammar (some given) s w₂ = (.ok p, w₂')
      ∧ w₂'.files = w₂.files.insert place
        (.file (savedBytes p) (w₂.files.modeAt w₂.files.host.newMode place)) := by
  refine resolve_given_eq_ok.mpr ⟨habsolute, ?_, ?_⟩
  · rcases checkoutFault?_of_sameBut hsame hvalid with ⟨hnone, -⟩ | ⟨-, hmissing⟩
    · exact hnone
    · exact absurd hmissing hgone
  · exact write_eq_none.mpr ⟨place, hsame.passable.locate hlocate, htakes, rfl⟩

/-- **Resolving the checkout is atomic but for the saving itself, and a given path is resolved whatever
was saved before.**  Where there is a regular file or nothing to keep the saved path:

A given path that is rejected leaves all files as they are, unless it is that of a checkout and saving
it breaks off; then the file that keeps the saved path holds what was written until then, and nothing
else has changed.  A path that is not rejected is absolute, is that of a checkout afterwards, and is
what is saved then; nothing else has changed.  Where that file is another one, or where there is none,
the same path is resolved and saved likewise; the file keeps the rights to it, and if these are other
ones, or a new file has to be made, it has to be possible to write it.  But if the list of languages of
the checkout is a link to that file, the path is rejected where there is none.  Without a given path
nothing is written. -/
theorem resolve_spec (hsaved : ∀ place e,
      w.files.lookup s.workingDirectory (savedPathFile grammar) false = .ok (place, e) → e.IsFile) :
    (∀ e w', resolve grammar (some given) s w = (.error e, w') → w'.files = w.files
        ∨ ∃ p place r kept,
          (given.expandHome s.home).absolute? s.workingDirectory.path = some p
          ∧ checkoutFault? s w.files p = none
          ∧ w.files.locate s.workingDirectory (savedPathFile grammar) false = .ok place
          ∧ e = .file (savedPathFile grammar) (.refused r) ∧ kept <+: savedBytes p
          ∧ SameBut place w.files w'.files
          ∧ w'.files.entry? place
            = some (.file kept (w.files.modeAt w.files.host.newMode place)))
      ∧ (∀ p w', resolve grammar (some given) s w = (.ok p, w') →
        p.isAbsolute = true ∧ (validate p s w').1 = .ok ()
        ∧ ∃ place, w.files.locate s.workingDirectory (savedPathFile grammar) false = .ok place
          ∧ w'.files.lookup s.workingDirectory (savedPathFile grammar) true
            = .ok (place, .file (savedBytes p) (w.files.modeAt w.files.host.newMode place))
          ∧ SameBut place w.files w'.files
          ∧ ∀ w₂ : World, SameBut place w.files w₂.files →
            (¬ LanguagesGone s w.files w₂.files p place →
              w₂.files.fileMode? place = w.files.fileMode? place
                ∨ w₂.files.Takes place (savedBytes p) →
              ∃ w₂', resolve grammar (some given) s w₂ = (.ok p, w₂')
                ∧ SameBut place w'.files w₂'.files
                ∧ w₂'.files.entry? place
                  = some (.file (savedBytes p) (w₂.files.modeAt w₂.files.host.newMode place)))
            ∧ (LanguagesGone s w.files w₂.files p place →
              resolve grammar (some given) s w₂
                = (.error (.deployment .validate (.languagesMissing p)), w₂)))
      ∧ (resolve grammar none s w).2.files = w.files := by
  have hend := locate_savedPathFile hsaved
  refine ⟨fun e w' hrun => ?_, fun p w' hrun => ?_, still_resolve_saved grammar s w⟩
  · rcases files_of_resolve_error hrun with hsame | ⟨p, cause, habsolute, hvalid, rfl, hwrite⟩
    · exact .inl hsame
    · rcases write_eq_some hwrite with
        hsame | ⟨place, r, kept, hlocate, hplace, hkept, rfl, hfiles⟩
      · exact .inl hsame
      · refine .inr ⟨p, place, r, kept, habsolute, hvalid, hend.symm.trans hlocate, rfl, hkept, ?_, ?_⟩
        · rw [hfiles]
          exact sameBut_insert hplace.mayHoldFile _ _
        · rw [hfiles, entry?_insert (ne_root hplace.mayHoldFile.ne_directory), if_pos rfl]
  · obtain ⟨habsolute, hvalid, hwrite⟩ := resolve_given_eq_ok.mp ⟨w', hrun, rfl⟩
    obtain ⟨place, hlocate, htakes, hfiles⟩ := write_eq_none.mp hwrite
    have hplace := htakes.writable.mayHoldFile
    have hroot : place ≠ [] := ne_root hplace.ne_directory
    have hsame : SameBut place w.files w'.files := by
      rw [hfiles]
      exact sameBut_insert hplace _ _
    have hentry : w'.files.entry? place
        = some (.file (savedBytes p) (w.files.modeAt w.files.host.newMode place)) := by
      rw [hfiles, entry?_insert hroot, if_pos rfl]
    refine ⟨?_, ?_, place, hend.symm.trans hlocate,
      lookup_eq_ok.mpr ⟨hsame.passable.locate hlocate, hentry⟩, hsame,
      fun w₂ hsame₂ => ⟨fun hgone hmay => ?_, fun hgone => ?_⟩⟩
    · exact Path.isAbsolute_of_absolute? (Place.isAbsolute_path _) habsolute
    · have hvalid' : checkoutFault? s w'.files p = none := by
        rcases checkoutFault?_of_sameBut hsame hvalid with ⟨hnone, -⟩ | ⟨-, -, hgone⟩
        · exact hnone
        · simp [hentry] at hgone
      rw [run_validate, hvalid']
    · have htakes₂ : w₂.files.Takes place (savedBytes p) :=
        hmay.elim (fun hmode => hsame₂.takes hmode htakes) id
      obtain ⟨w₂', hrun₂, hfiles₂⟩ :=
        exists_resolve_of_sameBut habsolute hvalid hlocate hsame₂ hgone htakes₂
      have hsame₂' := sameBut_insert hsame₂.after (savedBytes p)
        (w₂.files.modeAt w₂.files.host.newMode place)
      rw [← hfiles₂] at hsame₂'
      refine ⟨w₂', hrun₂, ⟨?_, fun q hq => ?_, hsame.after, hsame₂'.after⟩, ?_⟩
      · rw [hsame₂'.host, hsame₂.host, hsame.host]
      · rw [hsame₂'.same q hq, hsame₂.same q hq, hsame.same q hq]
      · rw [hfiles₂, entry?_insert hroot, if_pos rfl]
    · rcases checkoutFault?_of_sameBut hsame₂ hvalid with ⟨-, hkept⟩ | ⟨hmissing, -⟩
      · exact absurd hgone hkept
      · simp only [run_resolve_given, habsolute, hmissing]

/-- The place of the saved path. -/
def savedPlace : Place := ["g", ".helix_path"]

/-- What there is of a grammar beside which a path is saved, and of a checkout. -/
def savedEntries (mode : FileMode) : List (Place × FileSystem.Entry) :=
  [(["g"], .directory), (savedPlace, .file [120] mode), (["h"], .directory),
    (["h", "runtime"], .directory), (["h", "languages.toml"], .file [] false)]

/-- A grammar beside which a path is saved, and a checkout. -/
def savedWorld (mode : FileMode) : World where
  files := .mk (savedEntries mode)

/-- A grammar beside which a path is saved, and a checkout whose list of languages links to it. -/
def sharedWorld : World where
  files := .mk [(["g"], .directory), (savedPlace, .file [120] false), (["h"], .directory),
    (["h", "runtime"], .directory),
    (["h", "languages.toml"], .link (.ofString "/g/.helix_path"))]

/-- The world without the saved path. -/
def unsaved (w : World) : World where
  files := w.files.erase savedPlace

/-- Resolves the path of the checkout. -/
def resolveIn (w : World) : Except Failure Path × World :=
  resolve (.ofString "/g") (some (.ofString "/h")) writingSurroundings w

theorem sameBut_unsaved (mode : FileMode)
    (h : w.files.entry? savedPlace = some (.file [120] mode)) :
    SameBut savedPlace w.files (unsaved w).files :=
  sameBut_erase fun _ he => ⟨[120], mode, Option.some.inj (he.symm.trans h)⟩

/-- The path of the checkout is resolved, and it would be if none were saved. -/
theorem resolve_spec_saved : ∃ w' w₂',
    resolveIn (savedWorld .document) = (.ok (.ofString "/h"), w')
    ∧ resolveIn (unsaved (savedWorld .document)) = (.ok (.ofString "/h"), w₂')
    ∧ SameBut savedPlace w'.files w₂'.files := by
  have hlookup : (savedWorld .document).files.lookup [] (savedPathFile (.ofString "/g")) false
      = .ok (savedPlace, .file [120] .document) := rfl
  have hspec := @resolve_spec (.ofString "/g") (.ofString "/h") writingSurroundings
    (savedWorld .document) fun place e he =>
      ⟨[120], .document, (Prod.mk.inj (Except.ok.inj (he.symm.trans hlookup))).2⟩
  have hok : (resolveIn (savedWorld .document)).1 = .ok (.ofString "/h") := rfl
  generalize hrun : resolveIn (savedWorld .document) = outcome at hok
  obtain ⟨result, w'⟩ := outcome
  subst hok
  obtain ⟨-, -, place, hlocate, -, -, hothers⟩ := hspec.2.1 _ _ hrun
  obtain rfl : savedPlace = place :=
    Except.ok.inj ((lookup_eq_ok.mp hlookup).1.symm.trans hlocate)
  have hkept : ¬ LanguagesGone writingSurroundings (savedWorld .document).files
      (unsaved (savedWorld .document)).files (.ofString "/h") savedPlace := by
    rintro ⟨hlanguages, -⟩
    revert hlanguages
    decide
  have htakes : (unsaved (savedWorld .document)).files.Takes savedPlace
      (savedBytes (.ofString "/h")) :=
    ⟨⟨(sameBut_unsaved .document (by decide)).after, rfl⟩, rfl⟩
  obtain ⟨w₂', hrun₂, hsame, -⟩ :=
    (hothers _ (sameBut_unsaved .document (by decide))).1 hkept (.inr htakes)
  exact ⟨w', w₂', rfl, hrun₂, hsame⟩

/-- The rights to a file that nobody may write. -/
def readOnlyMode : FileMode := ⟨0o444⟩

/-- A grammar beside which a path is saved in a file that may not be written, and a checkout. -/
def guardedWorld : World where
  files := .hosted (savedEntries readOnlyMode)
    { refusal? := fun _ use => if use = .write readOnlyMode then some .permissionDenied else none }

/-- A grammar beside which a path is saved, and a checkout, where there is room for one byte more. -/
def fullWorld : World where
  files := .hosted (savedEntries .document) { breakOff? := fun _ _ _ => some (1, .noSpace) }

/-- **What was saved before may make a difference, and a rejected path may be saved in part.**  If the
list of languages is a link to the file that keeps the saved path, the path of the checkout is
resolved while the file is there, and rejected when it is gone.  A file that may be executed stays
one that may, while a new one may not.  A file that may not be written keeps the path from being
resolved, while a new one may be made.  And if there is no room for the path, what was saved before is
lost. -/
theorem resolve_shared :
    (sharedWorld.files.lookup [] (savedPathFile (.ofString "/g")) false
          = .ok (savedPlace, .file [120] false)
        ∧ SameBut savedPlace sharedWorld.files (unsaved sharedWorld).files
        ∧ (resolveIn sharedWorld).1 = .ok (.ofString "/h")
        ∧ (resolveIn (unsaved sharedWorld)).1
          = .error (.deployment .validate (.languagesMissing (.ofString "/h"))))
      ∧ ((savedWorld .program).files.lookup [] (savedPathFile (.ofString "/g")) false
          = .ok (savedPlace, .file [120] .program)
        ∧ SameBut savedPlace (savedWorld .program).files (unsaved (savedWorld .program)).files
        ∧ (resolveIn (savedWorld .program)).2.files.entry? savedPlace
          = some (.file [47, 104] .program)
        ∧ (resolveIn (unsaved (savedWorld .program))).2.files.entry? savedPlace
          = some (.file [47, 104] .document))
      ∧ (guardedWorld.files.lookup [] (savedPathFile (.ofString "/g")) false
          = .ok (savedPlace, .file [120] readOnlyMode)
        ∧ SameBut savedPlace guardedWorld.files (unsaved guardedWorld).files
        ∧ (resolveIn guardedWorld).1
          = .error (.file (savedPathFile (.ofString "/g")) (.refused .permissionDenied))
        ∧ (resolveIn (unsaved guardedWorld)).1 = .ok (.ofString "/h"))
      ∧ fullWorld.files.lookup [] (savedPathFile (.ofString "/g")) false
          = .ok (savedPlace, .file [120] .document)
        ∧ (resolveIn fullWorld).1
          = .error (.file (savedPathFile (.ofString "/g")) (.refused .noSpace))
        ∧ (resolveIn fullWorld).2.files.entry? savedPlace = some (.file [47] .document) := by
  have hshared : SameBut savedPlace sharedWorld.files (unsaved sharedWorld).files :=
    sameBut_unsaved .document (by decide)
  have hsaved : SameBut savedPlace (savedWorld .program).files
      (unsaved (savedWorld .program)).files :=
    sameBut_unsaved .program (by decide)
  have hguarded : SameBut savedPlace guardedWorld.files (unsaved guardedWorld).files :=
    sameBut_unsaved readOnlyMode (by decide)
  exact ⟨⟨rfl, hshared, rfl, rfl⟩, ⟨rfl, hsaved, rfl, rfl⟩, ⟨rfl, hguarded, rfl, rfl⟩, rfl, rfl, rfl⟩

end Deployment

end SyntaxKit
