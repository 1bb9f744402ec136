import Mathlib.Data.List.Perm.Basic
import SyntaxKit.CommandLine.Run
import SyntaxKit.Proofs.Sources.Collect
import SyntaxKit.Proofs.Task

/-!
# The verdict of a check

A check collects its source files first, and ends there if a directory cannot be read.  It goes through
the files one after the other, counts those that do not pass, and ends early at a file that cannot be
read or with an error that cannot be shown.  None of these hides a failure: the exit status is zero
exactly if the files can be collected and every one can be read and passes, and if the check gets to its
end, it counts every file, and as failed those that do not pass (`CommandLine.run_check`).
-/

namespace SyntaxKit

variable {lang : Language} {s : Surroundings} {w w' : World} {threshold : Double} {p : Path}

/-! ## One source file -/

namespace Sources

/-- Whether a source file can be read and passes a threshold. -/
def passesAt (lang : Language) (s : Surroundings) (fs : FileSystem) (threshold : Double)
    (p : Path) : Bool :=
  match fs.read s.workingDirectory p with
  | .ok bytes => (checkBytes lang p bytes).passes threshold
  | .error _ => false

/-- A source file can be checked to the end: it can be read and, unless it passes, each of its errors can
be shown. -/
def Reportable (lang : Language) (s : Surroundings) (fs : FileSystem) (threshold : Double)
    (p : Path) : Prop :=
  ∃ bytes, fs.read s.workingDirectory p = .ok bytes
    ∧ ((checkBytes lang p bytes).passes threshold = false →
      ∀ e ∈ (checkBytes lang p bytes).errors,
        (Report.ofError? (checkBytes lang p bytes).text (toString p) e).isSome = true)

theorem passesAt_eq_true {fs : FileSystem} :
    passesAt lang s fs threshold p = true ↔ ∃ bytes, fs.read s.workingDirectory p = .ok bytes
      ∧ (checkBytes lang p bytes).passes threshold = true := by
  rw [passesAt]
  cases fs.read s.workingDirectory p <;> simp

theorem reportable_of_passesAt {fs : FileSystem} (h : passesAt lang s fs threshold p = true) :
    Reportable lang s fs threshold p := by
  obtain ⟨bytes, hread, hpasses⟩ := passesAt_eq_true.mp h
  exact ⟨bytes, hread, fun hfails => by simp [hpasses] at hfails⟩

theorem check_of_error {e : FileError} (h : w.files.read s.workingDirectory p = .error e) :
    check lang p s w = (.error (.file p e), w) := by
  have hread : readBytes p s w = (.error (.file p e), w) := by
    rw [readBytes, Task.run_bind_of_ok (Task.run_look _), h]
    rfl
  exact Task.run_bind_of_error hread

theorem check_of_ok (lang : Language) {bytes : List UInt8}
    (h : w.files.read s.workingDirectory p = .ok bytes) :
    ∃ w₁, w₁.files = w.files ∧ check lang p s w = (.ok (checkBytes lang p bytes), w₁) := by
  have hread : readBytes p s w = (.ok bytes, w) := by
    rw [readBytes, Task.run_bind_of_ok (Task.run_look _), h]
    rfl
  rw [check, Task.run_bind_of_ok hread, Task.run_bind_of_ok (Task.run_record _)]
  refine ⟨_, ?_, rfl⟩
  rfl

end Sources

namespace CommandLine

open Sources

/-- Errors are reported to the end exactly if each of them can be shown, and no file is changed. -/
theorem reportErrors_spec (text : List Char) (errors : List SyntaxError) (w : World) :
    ∃ w₁, w₁.files = w.files ∧
      ((∀ e ∈ errors, (Report.ofError? text (toString p) e).isSome = true)
          ∧ reportErrors p text errors s w = (.ok (), w₁)
        ∨ (¬ ∀ e ∈ errors, (Report.ofError? text (toString p) e).isSome = true)
          ∧ reportErrors p text errors s w = (.error (.unshowable p), w₁)) := by
  induction errors generalizing w with
  | nil => exact ⟨w, rfl, .inl ⟨by simp, rfl⟩⟩
  | cons e rest ih =>
    rw [reportErrors]
    cases hreport : Report.ofError? text (toString p) e with
    | none => exact ⟨w, rfl, .inr ⟨by simp [hreport], rfl⟩⟩
    | some report =>
      dsimp only
      rw [Task.run_bind_of_ok (Task.run_write _)]
      obtain ⟨w₁, hfiles, hrest⟩ := ih { w with notes := w.notes ++ [.text report.render] }
      refine ⟨w₁, hfiles, ?_⟩
      simpa [hreport] using hrest

/-! ## All source files -/

/-- One step of a check: a file that passes is left behind, one that does not pass is reported and
counted, and the check ends at one that cannot be reported. -/
theorem checkAll_cons (lang : Language) (s : Surroundings) (threshold : Double) (p : Path)
    (rest : List Path) (w : World) : ∃ w₁, w₁.files = w.files ∧
    (passesAt lang s w.files threshold p = true
        ∧ checkAll lang threshold (p :: rest) s w = checkAll lang threshold rest s w₁
      ∨ passesAt lang s w.files threshold p = false ∧ Reportable lang s w.files threshold p
        ∧ checkAll lang threshold (p :: rest) s w
          = (checkAll lang threshold rest >>= fun failed => pure (failed + 1)) s w₁
      ∨ ¬ Reportable lang s w.files threshold p
        ∧ ∃ e, checkAll lang threshold (p :: rest) s w = (.error e, w₁)) := by
  rw [checkAll]
  cases hread : w.files.read s.workingDirectory p with
  | error e =>
    have hnot : ¬ Reportable lang s w.files threshold p := by
      rintro ⟨bytes, hok, -⟩
      simp [hread] at hok
    exact ⟨w, rfl, .inr (.inr ⟨hnot, _, Task.run_bind_of_error (check_of_error hread)⟩)⟩
  | ok bytes =>
    obtain ⟨w₁, hfiles, hcheck⟩ := check_of_ok lang hread
    rw [Task.run_bind_of_ok hcheck]
    cases hpasses : (checkBytes lang p bytes).passes threshold with
    | true =>
      rw [if_pos rfl, Task.run_bind_of_ok (Task.run_record _)]
      refine ⟨_, ?_, .inl ⟨passesAt_eq_true.mpr ⟨bytes, hread, hpasses⟩, rfl⟩⟩
      exact hfiles
    | false =>
      rw [if_neg Bool.false_ne_true]
      obtain ⟨w₂, hfiles', ⟨hshown, hreport⟩ | ⟨hnot, hreport⟩⟩ := reportErrors_spec (s := s) (p := p)
        (checkBytes lang p bytes).text (checkBytes lang p bytes).errors w₁
      · rw [Task.run_bind_of_ok hreport, Task.run_bind_of_ok (Task.run_write _)]
        refine ⟨_, ?_, .inr (.inl ⟨?_, ⟨bytes, hread, fun _ => hshown⟩, rfl⟩)⟩
        · exact hfiles'.trans hfiles
        · rw [passesAt, hread]
          exact hpasses
      · rw [Task.run_bind_of_error hreport]
        refine ⟨w₂, hfiles'.trans hfiles, .inr (.inr ⟨?_, _, rfl⟩)⟩
        rintro ⟨bytes', hread', hall⟩
        obtain rfl := Except.ok.inj (hread.symm.trans hread')
        exact hnot (hall hpasses)

/-- **A check gets to its end exactly if every file can be reported, and has then counted the files that
do not pass.** -/
theorem checkAll_spec (lang : Language) (s : Surroundings) (threshold : Double) (ps : List Path)
    (w : World) : ∃ w₁,
    (∀ p ∈ ps, Reportable lang s w.files threshold p) ∧ checkAll lang threshold ps s w
        = (.ok (ps.countP fun p => !passesAt lang s w.files threshold p), w₁)
      ∨ (∃ p ∈ ps, ¬ Reportable lang s w.files threshold p)
        ∧ ∃ e, checkAll lang threshold ps s w = (.error e, w₁) := by
  induction ps generalizing w with
  | nil => exact ⟨w, .inl ⟨by simp, rfl⟩⟩
  | cons p rest ih =>
    obtain ⟨w₁, hfiles, ⟨hpass, hstep⟩ | ⟨hfail, hreport, hstep⟩ | ⟨hnot, e, hstep⟩⟩ :=
      checkAll_cons lang s threshold p rest w
    · obtain ⟨w₂, hrest⟩ := ih w₁
      rw [hfiles] at hrest
      rw [hstep]
      refine ⟨w₂, hrest.imp ?_ ?_⟩
      · rintro ⟨hall, hrun⟩
        exact ⟨List.forall_mem_cons.mpr ⟨reportable_of_passesAt hpass, hall⟩,
          by rw [hrun, List.countP_cons_of_neg (by simp [hpass])]⟩
      · rintro ⟨⟨q, hq, hnot⟩, hrun⟩
        exact ⟨⟨q, List.mem_cons_of_mem _ hq, hnot⟩, hrun⟩
    · obtain ⟨w₂, hrest⟩ := ih w₁
      rw [hfiles] at hrest
      rw [hstep]
      refine ⟨w₂, hrest.imp ?_ ?_⟩
      · rintro ⟨hall, hrun⟩
        exact ⟨List.forall_mem_cons.mpr ⟨hreport, hall⟩,
          by rw [Task.run_bind_of_ok hrun, List.countP_cons_of_pos (by simp [hfail])]; rfl⟩
      · rintro ⟨⟨q, hq, hnot⟩, e, hrun⟩
        exact ⟨⟨q, List.mem_cons_of_mem _ hq, hnot⟩, e, Task.run_bind_of_error hrun⟩
    · exact ⟨w₁, .inr ⟨⟨p, List.mem_cons_self, hnot⟩, e, hstep⟩⟩

variable {paths sources : List Path} {extension : List Char}

/-- What checking some paths comes to, once the source files are collected: the summary tells how many
files were found and how many of them failed. -/
theorem checkPaths_spec (lang : Language) (threshold : Double)
    (hcollect : collect paths extension s w = (.ok sources, w)) :
    ∃ w₁, ((∀ p ∈ sources, Reportable lang s w.files threshold p)
        ∧ checkPaths lang paths extension threshold s w
          = (.ok ⟨"Checked " ++ toString sources.length ++ " file(s), "
              ++ toString (sources.countP fun p => !passesAt lang s w.files threshold p)
              ++ " with errors\n",
            sources.all (passesAt lang s w.files threshold)⟩, w₁))
      ∨ (∃ p ∈ sources, ¬ Reportable lang s w.files threshold p)
        ∧ ∃ e, checkPaths lang paths extension threshold s w = (.error e, w₁) := by
  obtain ⟨w₁, hchecked⟩ := checkAll_spec lang s threshold sources w
  rw [checkPaths, Task.run_bind_of_ok hcollect]
  refine ⟨w₁, hchecked.imp ?_ ?_⟩
  · rintro ⟨hall, hrun⟩
    refine ⟨hall, ?_⟩
    rw [Task.run_bind_of_ok hrun, Task.run_pure]
    congr 3
    rw [Bool.eq_iff_iff]
    simp
  · rintro ⟨hnot, e, hrun⟩
    exact ⟨hnot, e, Task.run_bind_of_error hrun⟩

/-- A check that gets to its end has collected the source files and reported every one. -/
theorem checkPaths_eq_ok {r : Result}
    (h : checkPaths lang paths extension threshold s w = (.ok r, w')) :
    ∃ sources, collect paths extension s w = (.ok sources, w)
      ∧ (∀ p ∈ sources, Reportable lang s w.files threshold p)
      ∧ r = ⟨"Checked " ++ toString sources.length ++ " file(s), "
          ++ toString (sources.countP fun p => !passesAt lang s w.files threshold p)
          ++ " with errors\n",
        sources.all (passesAt lang s w.files threshold)⟩ := by
  obtain ⟨sources, w₁, hcollect, -⟩ := Task.bind_eq_ok.mp h
  obtain ⟨rfl, -⟩ := collect_eq_ok.mp hcollect
  obtain ⟨w₂, ⟨hall, hrun⟩ | ⟨-, e, hrun⟩⟩ := checkPaths_spec lang threshold hcollect
  · exact ⟨sources, hcollect, hall, Except.ok.inj (Prod.mk.inj (h.symm.trans hrun)).1⟩
  · simpa using hrun.symm.trans h

/-! ## The run of the program -/

variable {query : Unit → Query} {e : Environment} {words : List String} {files : FileSystem}
  {c : CommandSpec} {before values : Values}

/-- A command line that begins with the name of a command is read as one of that command. -/
theorem read_of_command {spec : ProgramSpec} {environment : String → Option String} {word : String}
    {rest : List String} (hcommand : spec.command? word = some c)
    (hplain : word.toList.head? ≠ some '-') (hhelp : word ≠ helpCommand) :
    spec.read environment (word :: rest) = readCommand ⟨spec, c, environment⟩ {} rest := by
  have hsettle : (spec.context environment).settle {} = .ok {} := rfl
  rw [ProgramSpec.read]
  unfold ProgramSpec.readWords
  dsimp only
  split
  · next h => simp [h] at hplain
  · next h => simp [h] at hplain
  · next h => simp [h] at hplain
  · next h _ _ _ => simp at h
  · rw [hsettle]
    simp only [if_neg hhelp, hcommand]

/-- A run ends with status zero exactly if its job succeeds. -/
theorem status_run (h : program.read e.getVariable words = .accepted c before values) :
    (run lang query e words files).1.status = 0 ↔
      ∃ r w', perform lang query (jobOf c values) e.surroundings { files } = (.ok r, w')
        ∧ r.success = true := by
  rw [run, h]
  dsimp only
  generalize perform lang query (jobOf c values) e.surroundings { files } = outcome
  obtain ⟨failure | r, w'⟩ := outcome
  · cases failure <;> simp [brokenStatus]
  · simp

/-- A run whose job gets to its end writes what the job writes. -/
theorem output_run (h : program.read e.getVariable words = .accepted c before values) {r : Result}
    {w' : World} (hjob : perform lang query (jobOf c values) e.surroundings { files } = (.ok r, w')) :
    (run lang query e words files).1.output = r.output := by
  rw [run, h]
  simp only [hjob]

/-- The status of a check depends on the source files alone. -/
theorem status_check (hread : program.read e.getVariable words = .accepted c before values)
    (hjob : jobOf c values = .check paths extension threshold) :
    (run lang query e words files).1.status = 0 ↔
      ∃ sources w, collect paths extension e.surroundings { files } = (.ok sources, w)
        ∧ ∀ p ∈ sources, passesAt lang e.surroundings files threshold p = true := by
  rw [status_run hread, hjob, perform]
  constructor
  · rintro ⟨r, w', hrun, hsuccess⟩
    obtain ⟨sources, hcollect, -, rfl⟩ := checkPaths_eq_ok hrun
    exact ⟨sources, _, hcollect, List.all_eq_true.mp hsuccess⟩
  · rintro ⟨sources, w, hcollect, hall⟩
    obtain ⟨rfl, -⟩ := collect_eq_ok.mp hcollect
    obtain ⟨w₁, ⟨-, hrun⟩ | ⟨⟨p, hp, hnot⟩, -⟩⟩ := checkPaths_spec lang threshold hcollect
    · exact ⟨_, w₁, hrun, List.all_eq_true.mpr hall⟩
    · exact absurd (reportable_of_passesAt (hall p hp)) hnot

/-- The order of the paths makes no difference to which files are collected, and whether they can be. -/
theorem collect_of_perm {paths' : List Path} (hperm : paths'.Perm paths)
    (hcollect : collect paths extension s w = (.ok sources, w)) :
    ∃ sources', collect paths' extension s w = (.ok sources', w)
      ∧ ∀ p, p ∈ sources' ↔ p ∈ sources := by
  obtain ⟨-, lists, hlists, rfl⟩ := collect_eq_ok.mp hcollect
  obtain ⟨lists', hlists', hsame⟩ := List.perm_comp_forall₂ hperm hlists
  refine ⟨lists'.flatten, collect_eq_ok.mpr ⟨rfl, lists', hlists', rfl⟩, fun p => ?_⟩
  simp only [List.mem_flatten, hsame.mem_iff]

/-- **The verdict of a check is exact.**  The exit status is zero exactly if the source files can be
collected and each of them can be read and passes.  A check that gets to its end tells how many files
were collected, each as often as some path leads to it, and how many of them do not pass.  In which
order the paths are given makes no difference to whether the exit status is zero. -/
theorem run_check (hread : program.read e.getVariable words = .accepted c before values)
    (hjob : jobOf c values = .check paths extension threshold) :
    ((run lang query e words files).1.status = 0 ↔
      ∃ sources w, collect paths extension e.surroundings { files } = (.ok sources, w)
        ∧ ∀ p ∈ sources, ∃ bytes, files.read e.surroundings.workingDirectory p = .ok bytes
          ∧ (checkBytes lang p bytes).passes threshold = true)
    ∧ (∀ r w, perform lang query (jobOf c values) e.surroundings { files } = (.ok r, w) →
      ∃ (sources : List Path) (lists : List (List Path)),
        collect paths extension e.surroundings { files } = (.ok sources, { files })
        ∧ List.Forall₂ (fun p found => expand e.surroundings files extension p = .ok found) paths lists
        ∧ sources = lists.flatten
        ∧ (run lang query e words files).1.output
          = "Checked " ++ toString sources.length ++ " file(s), "
            ++ toString (sources.countP fun p => !passesAt lang e.surroundings files threshold p)
            ++ " with errors\n"
        ∧ ∀ p ∈ sources, ∃ bytes, files.read e.surroundings.workingDirectory p = .ok bytes)
    ∧ (∀ words' c' before' values' paths',
      program.read e.getVariable words' = .accepted c' before' values' →
      jobOf c' values' = .check paths' extension threshold → paths'.Perm paths →
      ((run lang query e words files).1.status = 0
        ↔ (run lang query e words' files).1.status = 0)) := by
  refine ⟨?_, ?_, ?_⟩
  · rw [status_check hread hjob]
    simp only [passesAt_eq_true]
  · intro r w hrun
    have houtput := output_run hread hrun
    rw [hjob] at hrun
    obtain ⟨sources, hcollect, hall, rfl⟩ := checkPaths_eq_ok hrun
    obtain ⟨-, lists, hlists, hflatten⟩ := collect_eq_ok.mp hcollect
    refine ⟨sources, lists, hcollect, hlists, hflatten, houtput, fun p hp => ?_⟩
    obtain ⟨bytes, hbytes, -⟩ := hall p hp
    exact ⟨bytes, hbytes⟩
  · intro words' c' before' values' paths' hread' hjob' hperm
    rw [status_check hread hjob, status_check hread' hjob']
    have hforth {paths paths' : List Path} (hperm : paths'.Perm paths)
        (h : ∃ sources w, collect paths extension e.surroundings { files } = (.ok sources, w)
          ∧ ∀ p ∈ sources, passesAt lang e.surroundings files threshold p = true) :
        ∃ sources w, collect paths' extension e.surroundings { files } = (.ok sources, w)
          ∧ ∀ p ∈ sources, passesAt lang e.surroundings files threshold p = true := by
      obtain ⟨sources, w, hcollect, hall⟩ := h
      obtain ⟨rfl, -⟩ := collect_eq_ok.mp hcollect
      obtain ⟨sources', hcollect', hmem⟩ := collect_of_perm hperm hcollect
      exact ⟨sources', _, hcollect', fun p hp => hall p ((hmem p).mp hp)⟩
    exact ⟨hforth hperm, hforth hperm.symm⟩

/-- A file system with an empty source file, one with a syntax error, and a directory that may not be
listed. -/
def brokenFiles : FileSystem where
  entries := [(["a.ha"], .file [] false), (["b.ha"], .file [64] false), (["d"], .directory)]
  host := { refusal? := fun place use =>
    if place = ["d"] ∧ use = .list then some .permissionDenied else none }

/-- A process in the root directory, without environment variables. -/
def plainEnvironment : Environment where
  surroundings :=
    { workingDirectory := [], home := none, tool := fun _ _ fs => (.ended (.status 0) [], fs) }
  getVariable _ := none
  time := ""

/-- A check that names the empty file twice passes.  One that names the file with the error does not,
before or behind the empty one, and counts both; nor does one that names the directory. -/
theorem run_check_brokenFiles :
    (run Harneet.language default plainEnvironment ["check", "a.ha", "a.ha"] brokenFiles).1.status = 0
    ∧ (run Harneet.language default plainEnvironment ["check", "b.ha", "a.ha"] brokenFiles).1.status
      ≠ 0
    ∧ (run Harneet.language default plainEnvironment ["check", "b.ha", "a.ha"] brokenFiles).1.output
      = "Checked 2 file(s), 1 with errors\n"
    ∧ (run Harneet.language default plainEnvironment ["check", "a.ha", "b.ha"] brokenFiles).1.status
      ≠ 0
    ∧ (run Harneet.language default plainEnvironment ["check", "a.ha", "d"] brokenFiles).1.status
      ≠ 0 := by
  have hread (p q : String) (hp : p = "a.ha" ∨ p = "b.ha")
      (hq : q = "a.ha" ∨ q = "b.ha" ∨ q = "d") :
      program.read plainEnvironment.getVariable ["check", p, q]
        = .accepted checkCommand {} ⟨[], [p, q]⟩ := by
    rw [read_of_command (c := checkCommand) (by decide) (by decide) (by decide)]
    rcases hp with rfl | rfl <;> rcases hq with rfl | rfl | rfl <;> rfl
  have hjob (p q : String) : jobOf checkCommand ⟨[], [p, q]⟩
      = .check [Path.ofString p, Path.ofString q] ['h', 'a'] (.finite 0) := by
    have hextension : Values.valueOf ⟨[], [p, q]⟩ extensionOption = "ha" := rfl
    have hthreshold : Values.valueOf ⟨[], [p, q]⟩ thresholdOption = "0" := rfl
    have hzero : Double.read? "0".toList = some (.finite 0) := by decide +kernel
    rw [jobOf, if_neg (by decide), if_pos rfl, hextension, hthreshold, hzero]
    simp
  have htwice := hread "a.ha" "a.ha" (.inl rfl) (.inl rfl)
  have hbehind := hread "b.ha" "a.ha" (.inr rfl) (.inl rfl)
  have hbefore := hread "a.ha" "b.ha" (.inl rfl) (.inr (.inl rfl))
  have hbarred := hread "a.ha" "d" (.inl rfl) (.inr (.inr rfl))
  -- what the bytes of the two files come to
  have hempty : passesAt Harneet.language plainEnvironment.surroundings brokenFiles (.finite 0)
      (Path.ofString "a.ha") = true := by decide +kernel
  have hbroken : passesAt Harneet.language plainEnvironment.surroundings brokenFiles (.finite 0)
      (Path.ofString "b.ha") = false := by decide +kernel
  have hcollect (p q : Path) (hp : brokenFiles.isDirectory [] p = false)
      (hq : brokenFiles.isDirectory [] q = false) :
      collect [p, q] ['h', 'a'] plainEnvironment.surroundings { files := brokenFiles }
        = (.ok [p, q], { files := brokenFiles }) :=
    collect_eq_ok.mpr ⟨rfl, [[p], [q]],
      .cons (expand_of_not_directory hp) (.cons (expand_of_not_directory hq) .nil), rfl⟩
  have ha : brokenFiles.isDirectory [] (Path.ofString "a.ha") = false := by decide
  have hb : brokenFiles.isDirectory [] (Path.ofString "b.ha") = false := by decide
  have hfails : (run Harneet.language default plainEnvironment ["check", "b.ha", "a.ha"]
      brokenFiles).1.status ≠ 0 := by
    intro hzero
    obtain ⟨sources, w, hsources, hall⟩ := (run_check hbehind (hjob _ _)).1.mp hzero
    obtain rfl := Except.ok.inj (Prod.mk.inj ((hcollect _ _ hb ha).symm.trans hsources)).1
    have hpasses := passesAt_eq_true.mpr (hall _ List.mem_cons_self)
    exact absurd (hpasses.symm.trans hbroken) (by simp)
  refine ⟨?_, hfails, ?_, fun hzero => hfails ?_, fun hzero => ?_⟩
  · refine (run_check htwice (hjob _ _)).1.mpr ⟨_, _, hcollect _ _ ha ha, fun p hp => ?_⟩
    obtain rfl : p = Path.ofString "a.ha" := by simpa using hp
    exact passesAt_eq_true.mp hempty
  · have hends : (perform Harneet.language default (jobOf checkCommand ⟨[], ["b.ha", "a.ha"]⟩)
        plainEnvironment.surroundings { files := brokenFiles }).1.toBool = true := by decide +kernel
    generalize hrun : perform Harneet.language default (jobOf checkCommand ⟨[], ["b.ha", "a.ha"]⟩)
      plainEnvironment.surroundings { files := brokenFiles } = outcome at hends
    obtain ⟨failure | r, w⟩ := outcome
    · cases hends
    · obtain ⟨sources, -, hsources, -, -, houtput, -⟩ := (run_check hbehind (hjob _ _)).2.1 r w hrun
      obtain rfl := Except.ok.inj (Prod.mk.inj ((hcollect _ _ hb ha).symm.trans hsources)).1
      rw [houtput, List.countP_cons_of_pos (by rw [hbroken]; rfl),
        List.countP_cons_of_neg (by rw [hempty]; simp)]
      rfl
  · exact ((run_check hbefore (hjob _ _)).2.2 _ _ _ _ _ hbehind (hjob _ _) (.swap _ _ _)).mp hzero
  · obtain ⟨sources, w, hsources, -⟩ := (run_check hbarred (hjob _ _)).1.mp hzero
    have hnone : (collect [Path.ofString "a.ha", Path.ofString "d"] ['h', 'a']
        plainEnvironment.surroundings { files := brokenFiles }).1.toBool = false := by decide +kernel
    rw [hsources] at hnone
    cases hnone

end CommandLine

end SyntaxKit
