import SyntaxKit.Deployment.Install
import SyntaxKit.Proofs.Files.Removal
import SyntaxKit.Proofs.Task

/-!
# The course of a deployment with a build

The build tool is any function on file systems, so nothing is known of what its runs leave behind.  What
a deployment with a build can still promise is its course: the tool is started where no output of an
earlier build is left, it is run twice and ends well both times, and the library that is installed is
looked for in what the second run left (`Deployment.exists_course`).

The other stages run no tool (`Deployment.Aside`): they would do the same with any other one.
-/

namespace SyntaxKit

/-- A task ends with a value on a file system and leaves another one. -/
def Task.Turns {α : Type} (t : Task α) (s : Surroundings) (fs : FileSystem) (a : α)
    (fs' : FileSystem) : Prop :=
  ∃ w w', w.files = fs ∧ t s w = (.ok a, w') ∧ w'.files = fs'

theorem Task.turns_of_eq {α : Type} {t : Task α} {s : Surroundings} {w w' : World} {a : α}
    (h : t s w = (.ok a, w')) : t.Turns s w.files a w'.files :=
  ⟨w, w', rfl, h, rfl⟩

namespace Deployment

variable {α β : Type} {t : Task α} {s : Surroundings} {w w' : World} {grammar checkout : Path}

/-! ## Runs of the build tool -/

/-- The subcommand of a run of the build tool that a note tells of. -/
def toolRun? : Note → Option String
  | .event e =>
    if e.message = "Running tree-sitter" then e.fields.lookup "subcommand" else none
  | .text _ => none

/-- The subcommands with which the build tool was run, going by the notes. -/
def toolRuns (notes : List Note) : List String := notes.filterMap toolRun?

/-- A task that runs no tool: it does the same with any other tool, and notes no run. -/
structure Aside (t : Task α) : Prop where
  same : ∀ s tool w, t { s with tool } w = t s w
  silent : ∀ s w, toolRuns (t s w).2.notes = toolRuns w.notes

namespace Aside

theorem pure (a : α) : Aside (Pure.pure a : Task α) := ⟨fun _ _ _ => rfl, fun _ _ => rfl⟩

theorem fail (e : Failure) : Aside (Task.fail e : Task α) := ⟨fun _ _ _ => rfl, fun _ _ => rfl⟩

theorem look {f : Surroundings → FileSystem → α} (h : ∀ s tool fs, f { s with tool } fs = f s fs) :
    Aside (Task.look f) :=
  ⟨fun s tool w => by simp only [Task.run_look, h], fun _ _ => rfl⟩

theorem record {level : Log.Level} {message : String} {fields : List (String × String)}
    (h : message ≠ "Running tree-sitter") : Aside (Task.record (event level message fields)) :=
  ⟨fun _ _ _ => rfl, fun s w => by simp [toolRuns, toolRun?, event, h]⟩

theorem change {f : Surroundings → FileSystem → Except FileError FileSystem}
    (h : ∀ s tool fs, f { s with tool } fs = f s fs) : Aside (Task.change f) := by
  refine ⟨fun s tool w => by simp only [Task.run_change, h], fun s w => ?_⟩
  rw [Task.run_change]
  split <;> rfl

theorem changePartly {f : Surroundings → FileSystem → α × FileSystem}
    (h : ∀ s tool fs, f { s with tool } fs = f s fs) : Aside (Task.changePartly f) :=
  ⟨fun s tool w => by simp only [Task.run_changePartly, h], fun _ _ => rfl⟩

theorem bind {f : α → Task β} (ht : Aside t) (hf : ∀ a, Aside (f a)) : Aside (t >>= f) where
  same s tool w := by
    rw [Task.run_bind, Task.run_bind, ht.same]
    split
    · exact (hf _).same _ _ _
    · rfl
  silent s w := by
    refine Task.bind_induction (R := fun u v => toolRuns v.notes = toolRuns u.notes)
      (fun h h' => h'.trans h) (ht.silent s w) fun a w₁ _ => (hf a).silent s w₁

end Aside

theorem aside_absolute (p : Path) : Aside (absolute p) := by
  refine (Aside.look fun _ _ _ => rfl).bind fun q => ?_
  cases q with
  | some q => exact .pure q
  | none => exact .fail _

theorem aside_validate (p : Path) : Aside (validate p) := by
  refine (Aside.look fun _ _ _ => rfl).bind fun fault => ?_
  cases fault with
  | some cause => exact .fail _
  | none => exact .record (by decide)

theorem aside_loadSaved (grammar : Path) : Aside (loadSaved grammar) := by
  refine (Aside.look fun _ _ _ => rfl).bind fun result => ?_
  split
  · exact .pure _
  · exact .fail _
  · split
    · exact .fail _
    · split
      · exact .pure _
      · exact (aside_absolute _).bind fun q => .pure _

theorem aside_save (grammar checkout : Path) : Aside (save grammar checkout) := by
  refine (Aside.changePartly fun _ _ _ => rfl).bind fun result => ?_
  cases result with
  | some e => exact .fail _
  | none => exact .record (by decide)

theorem aside_resolve (grammar : Path) (given : Option Path) : Aside (resolve grammar given) := by
  cases given with
  | some given =>
    exact (aside_absolute _).bind fun p => (aside_validate p).bind fun _ =>
      (aside_save grammar p).bind fun _ => .pure _
  | none =>
    refine (aside_loadSaved grammar).bind fun saved => ?_
    cases saved with
    | some p =>
      exact (Aside.record (by decide)).bind fun _ => (aside_validate p).bind fun _ => .pure _
    | none => exact .fail _

theorem aside_removeAll (ps : List Path) : Aside (removeAll ps) := by
  induction ps with
  | nil => exact .pure _
  | cons p rest ih =>
    refine (Aside.change fun _ _ _ => rfl).bind fun result => ?_
    split
    · exact (Aside.record (by decide)).bind fun _ => ih.bind fun _ => .pure _
    · exact ih
    · exact .fail _

theorem aside_copyInto (directory source target : Path) :
    Aside (copyInto directory source target) := by
  refine (Aside.changePartly fun _ _ _ => rfl).bind fun result => ?_
  cases result with
  | some e => exact .pure _
  | none => exact .changePartly fun _ _ _ => rfl

theorem aside_copyGrammar (grammar checkout : Path) : Aside (copyGrammar grammar checkout) := by
  refine (Aside.look fun _ _ _ => rfl).bind fun library => ?_
  cases library with
  | none => exact .fail _
  | some library =>
    refine (aside_copyInto _ _ _).bind fun result => ?_
    cases result with
    | some e => exact .fail _
    | none => exact (Aside.record (by decide)).bind fun _ => .pure _

theorem aside_copyAll (directory : Path) (files : List Path) : Aside (copyAll directory files) := by
  induction files with
  | nil => exact .pure _
  | cons file rest ih =>
    rw [copyAll]
    split
    · exact ih
    · refine (Aside.changePartly fun _ _ _ => rfl).bind fun result => ?_
      cases result with
      | some e => exact .fail _
      | none => exact (Aside.record (by decide)).bind fun _ => ih.bind fun _ => .pure _

theorem aside_copyQueries (grammar checkout : Path) : Aside (copyQueries grammar checkout) := by
  refine (Aside.look fun _ _ _ => rfl).bind fun found => ?_
  split
  · exact .fail _
  · refine (Aside.look fun _ _ _ => rfl).bind fun files => ?_
    split
    · exact .fail _
    · exact (Aside.record (by decide)).bind fun _ => .pure _
    · refine (Aside.changePartly fun _ _ _ => rfl).bind fun result => ?_
      cases result with
      | some e => exact .fail _
      | none =>
        exact (aside_copyAll _ _).bind fun _ => (Aside.record (by decide)).bind fun _ => .pure _

theorem aside_isConfigured (checkout : Path) : Aside (isConfigured checkout) := by
  refine (Aside.look fun _ _ _ => rfl).bind fun result => ?_
  split
  · exact (Aside.record (by decide)).bind fun _ => .pure _
  · split
    · exact (Aside.record (by decide)).bind fun _ => .pure _
    · exact (Aside.record (by decide)).bind fun _ => .pure _

/-! ## Cleaning -/

/-- **After cleaning, every path that was to be cleaned leads nowhere**, and so does every path that led
nowhere before. -/
theorem lookup_of_removeAll {ps removed : List Path} (h : removeAll ps s w = (.ok removed, w')) :
    ∀ p, p ∈ ps ∨ w.files.lookup s.workingDirectory p false = .error .notFound →
      w'.files.lookup s.workingDirectory p false = .error .notFound := by
  induction ps generalizing w removed with
  | nil =>
    rw [removeAll, Task.run_pure, Prod.mk.injEq] at h
    rintro p (hp | hp)
    · simp at hp
    · rw [← h.2]
      exact hp
  | cons p rest ih =>
    obtain ⟨result, w₁, hchange, hgo⟩ := Task.bind_eq_ok.mp h
    split at hgo
    · -- what was there is removed
      obtain ⟨hremove, -⟩ := Task.change_eq_none hchange
      rw [Task.run_bind_of_ok (Task.run_record _)] at hgo
      obtain ⟨others, w₂, hrest, hdone⟩ := Task.bind_eq_ok.mp hgo
      obtain rfl : w₂ = w' := congrArg Prod.snd hdone
      have hgone := ih hrest
      rintro q (hq | hq)
      · rcases List.mem_cons.mp hq with rfl | hq
        · exact hgone q (.inr (FileSystem.lookup_of_remove hremove))
        · exact hgone q (.inl hq)
      · exact hgone q (.inr (FileSystem.lookup_remove_of_notFound hremove hq))
    · -- there was nothing to remove
      obtain ⟨hremove, rfl⟩ := Task.change_eq_some hchange
      have hgone := ih hgo
      rintro q (hq | hq)
      · rcases List.mem_cons.mp hq with rfl | hq
        · exact hgone q (.inr (FileSystem.remove_eq_notFound hremove))
        · exact hgone q (.inl hq)
      · exact hgone q (.inr hq)
    · simp at hgo

/-! ## Building -/

/-- The build tool was started with a subcommand in the directory of the grammar, ended with status
zero, and left the file system as it then was. -/
def Ran (s : Surroundings) (grammar : Path) (subcommand : String) (fs fs' : FileSystem) : Prop :=
  ∃ place complaint, fs.lookup s.workingDirectory grammar true = .ok (place, .directory)
    ∧ s.tool subcommand place fs = (.ended (.status 0) complaint, fs')

theorem runIn_eq {subcommand : String} {complaint : List UInt8} {fs fs' : FileSystem}
    (h : runIn s fs grammar subcommand = (.ended (.status 0) complaint, fs')) :
    Ran s grammar subcommand fs fs' := by
  rw [runIn] at h
  split at h
  · simp at h
  · next place hlookup =>
    split at h
    · simp at h
    · exact ⟨place, complaint, hlookup, h⟩
  · simp at h

theorem runTool_eq_ok {subcommand : String} {step : Step}
    (h : runTool grammar subcommand step s w = (.ok (), w')) :
    Ran s grammar subcommand w.files w'.files
      ∧ toolRuns w'.notes = toolRuns w.notes ++ ["\"" ++ subcommand ++ "\""] := by
  replace h := (Task.run_bind_of_ok (Task.run_record _)).symm.trans h
  obtain ⟨result, w₁, hrun, h⟩ := Task.bind_eq_ok.mp h
  rw [Task.run_changePartly, Prod.mk.injEq, Except.ok.injEq] at hrun
  obtain ⟨hresult, rfl⟩ := hrun
  split at h
  · simp at h
  · next complaint =>
    rw [Task.run_pure, Prod.mk.injEq] at h
    rw [← h.2]
    exact ⟨runIn_eq (Prod.ext hresult rfl), by simp [toolRuns, toolRun?, event]⟩
  · simp at h

/-- A run of the build tool depends on what the tool does in the file system that it finds. -/
theorem runTool_congr {tool : Tool} {subcommand : String} {step : Step}
    (h : ∀ place, tool subcommand place w.files = s.tool subcommand place w.files) :
    runTool grammar subcommand step { s with tool } w = runTool grammar subcommand step s w := by
  have hrun : runIn { s with tool } w.files grammar subcommand
      = runIn s w.files grammar subcommand := by
    unfold runIn
    dsimp only
    split
    · rfl
    · split
      · rfl
      · exact h _
    · rfl
  rw [runTool, Task.run_bind_of_ok (Task.run_record _),
    Task.run_bind_of_ok (Task.run_changePartly _), Task.run_bind_of_ok (Task.run_record _),
    Task.run_bind_of_ok (Task.run_changePartly _), hrun]
  dsimp only
  generalize runIn s w.files grammar subcommand = result
  obtain ⟨error | ⟨(_ | code) | signal, complaint⟩, files⟩ := result
  · rfl
  · rfl
  · rfl
  · rfl

/-- To build is to clean, to generate, and to build the library. -/
theorem build_eq_ok : build grammar s w = (.ok (), w') ↔ ∃ removed w₁ w₂,
    clean grammar s w = (.ok removed, w₁)
      ∧ runTool grammar "generate" .generate s w₁ = (.ok (), w₂)
      ∧ runTool grammar "build" .build s w₂ = (.ok (), w') := by
  rw [build, Task.bind_eq_ok]
  refine exists_congr fun removed => exists_congr fun w₁ => ?_
  rw [Task.bind_eq_ok]
  exact ⟨fun ⟨hclean, _, w₂, h⟩ => ⟨w₂, hclean, h⟩, fun ⟨w₂, hclean, h⟩ => ⟨hclean, (), w₂, h⟩⟩

/-! ## Installing -/

/-- The library is installed by copying the file that was found. -/
theorem copyGrammar_eq_ok {target : Path} (h : copyGrammar grammar checkout s w = (.ok target, w')) :
    ∃ library, (libraryNames.map grammar.child).find? (w.files.isFile s.workingDirectory ·)
        = some library
      ∧ target = ((checkout.child "runtime").child "grammars").child (languageName ++ ".so")
      ∧ (copyInto ((checkout.child "runtime").child "grammars") library target).Turns s w.files none
        w'.files := by
  obtain ⟨found, w₁, hfind, h⟩ := Task.bind_eq_ok.mp h
  rw [findLibrary, Task.run_look, Prod.mk.injEq, Except.ok.injEq] at hfind
  obtain ⟨hfound, rfl⟩ := hfind
  cases found with
  | none => simp at h
  | some library =>
    refine ⟨library, hfound, ?_⟩
    obtain ⟨result, w₂, hcopy, h⟩ := Task.bind_eq_ok.mp h
    cases result with
    | some e => simp at h
    | none =>
      replace h := (Task.run_bind_of_ok (Task.run_record _)).symm.trans h
      rw [Task.run_pure, Prod.mk.injEq, Except.ok.injEq] at h
      obtain ⟨rfl, rfl⟩ := h
      exact ⟨rfl, w, w₂, rfl, hcopy, rfl⟩

/-- To see what the editor's configuration says changes no file. -/
theorem still_isConfigured (checkout : Path) : (isConfigured checkout).Still := by
  refine (Task.Still.look _).bind fun result => ?_
  cases result with
  | error e => exact (Task.Still.record _).bind fun _ => .pure _
  | ok text =>
    dsimp only
    split
    · exact (Task.Still.record _).bind fun _ => .pure _
    · exact (Task.Still.record _).bind fun _ => .pure _

/-- **A deployment that succeeds went through all of its stages.** -/
theorem deploy_eq_ok {plan : Plan} {summary : Summary} :
    deploy plan s w = (.ok summary, w') ↔
      w.files.pathExists s.workingDirectory (plan.grammar.child "grammar.js") = true
        ∧ ∃ w₁ w₂ w₃ w₄, resolve plan.grammar plan.checkout s w = (.ok summary.checkout, w₁)
          ∧ prepare plan s { w₁ with notes := w₁.notes
              ++ [.event (event .info "Deploying to Helix" [("helix", toString summary.checkout)])] }
            = (.ok (), w₂)
          ∧ copyGrammar plan.grammar summary.checkout s w₂ = (.ok summary.library, w₃)
          ∧ copyQueries plan.grammar summary.checkout s w₃ = (.ok summary.queries, w₄)
          ∧ isConfigured summary.checkout s w₄ = (.ok summary.configured, w') := by
  rw [deploy, Task.run_bind_of_ok (Task.run_look _)]
  by_cases hgrammar : w.files.pathExists s.workingDirectory (plan.grammar.child "grammar.js") = true
  · rw [if_neg (by simp [hgrammar])]
    constructor
    · intro h
      obtain ⟨checkout, w₁, hresolve, h⟩ := Task.bind_eq_ok.mp h
      replace h := (Task.run_bind_of_ok (Task.run_record _)).symm.trans h
      obtain ⟨⟨⟩, w₂, hprepare, h⟩ := Task.bind_eq_ok.mp h
      obtain ⟨library, w₃, hlibrary, h⟩ := Task.bind_eq_ok.mp h
      obtain ⟨queries, w₄, hqueries, h⟩ := Task.bind_eq_ok.mp h
      obtain ⟨configured, w₅, hconfigured, h⟩ := Task.bind_eq_ok.mp h
      rw [Task.run_pure, Prod.mk.injEq, Except.ok.injEq] at h
      obtain ⟨rfl, rfl⟩ := h
      exact ⟨hgrammar, w₁, w₂, w₃, w₄, hresolve, hprepare, hlibrary, hqueries, hconfigured⟩
    · rintro ⟨-, w₁, w₂, w₃, w₄, hresolve, hprepare, hlibrary, hqueries, hconfigured⟩
      rw [Task.run_bind_of_ok hresolve, Task.run_bind_of_ok (Task.run_record _),
        Task.run_bind_of_ok hprepare, Task.run_bind_of_ok hlibrary, Task.run_bind_of_ok hqueries,
        Task.run_bind_of_ok hconfigured]
      rfl
  · rw [if_pos (by simpa using hgrammar)]
    simp [hgrammar]

/-! ## The course of a deployment -/

/-- The library of a grammar directory is `harneet.so` if there is such a file, and else
`harneet.dylib`. -/
def preferredLibrary (s : Surroundings) (grammar : Path) (fs : FileSystem) : Path :=
  if fs.isFile s.workingDirectory (grammar.child "harneet.so") then grammar.child "harneet.so"
  else grammar.child "harneet.dylib"

theorem eq_preferredLibrary {fs : FileSystem} {library : Path}
    (h : (libraryNames.map grammar.child).find? (fs.isFile s.workingDirectory ·) = some library) :
    library = preferredLibrary s grammar fs ∧ fs.isFile s.workingDirectory library = true := by
  have hfile := List.find?_some h
  refine ⟨?_, hfile⟩
  rw [show libraryNames = ["harneet.so", "harneet.dylib"] by decide, List.map_cons,
    List.map_singleton, List.find?_cons] at h
  rw [preferredLibrary]
  split at h
  · next hso => rw [if_pos hso, Option.some.inj h]
  · next hso =>
    rw [List.find?_singleton] at h
    rw [if_neg (by simp [hso])]
    split at h
    · exact (Option.some.inj h).symm
    · simp at h

/-- The course of a deployment with a build: the file systems that its stages left one after the other,
and what happened between them. -/
structure Course (plan : Plan) (s : Surroundings) (w : World) (summary : Summary) (w' : World) where
  (resolved cleaned generated built copied : FileSystem)
  removed : List Path
  library : Path
  resolves : (resolve plan.grammar plan.checkout).Turns s w.files summary.checkout resolved
  cleans : (clean plan.grammar).Turns s resolved removed cleaned
  /-- Where the first run starts, none of the outputs of a build is there, not even as a link. -/
  fresh : ∀ p ∈ [plan.grammar.child "harneet.so", plan.grammar.child "harneet.dylib",
      (plan.grammar.child "src").child "parser.c"],
    cleaned.lookup s.workingDirectory p false = .error .notFound
  generates : Ran s plan.grammar "generate" cleaned generated
  builds : Ran s plan.grammar "build" generated built
  /-- The library is looked for in what the second run left. -/
  preferred : library = preferredLibrary s plan.grammar built
  found : built.isFile s.workingDirectory library = true
  copies : (copyInto ((summary.checkout.child "runtime").child "grammars") library
    summary.library).Turns s built none copied
  installs : (copyQueries plan.grammar summary.checkout).Turns s copied summary.queries w'.files
  /-- These two are the only runs that are noted. -/
  runs : toolRuns w'.notes = toolRuns w.notes ++ ["\"generate\"", "\"build\""]
  /-- A tool that does the same in these two runs makes no difference, whatever else it may do. -/
  alone : ∀ tool : Tool, (∀ place, tool "generate" place cleaned = s.tool "generate" place cleaned) →
    (∀ place, tool "build" place generated = s.tool "build" place generated) →
    deploy plan { s with tool } w = (.ok summary, w')

/-- **A deployment with a build never installs a stale library.**  If it succeeds, whatever the build
tool does, it has taken its course: the tool ran once to generate the parser, where no output of an
earlier build was left, and once more to build the library, both times with success; and the library
that was installed is the one preferred among what the second run left. -/
theorem exists_course {plan : Plan} {summary : Summary} (hbuild : plan.skipBuild = false)
    (h : deploy plan s w = (.ok summary, w')) : Nonempty (Course plan s w summary w') := by
  obtain ⟨hgrammar, w₁, w₄, w₅, w₆, hresolve, hprepare, hlibrary, hqueries, hconfigured⟩ :=
    deploy_eq_ok.mp h
  rw [prepare, if_neg (by simp [hbuild])] at hprepare
  obtain ⟨removed, w₂, w₃, hclean, hgenerate, hbuilt⟩ := build_eq_ok.mp hprepare
  obtain ⟨hgenerates, hruns⟩ := runTool_eq_ok hgenerate
  obtain ⟨hbuilds, hruns'⟩ := runTool_eq_ok hbuilt
  obtain ⟨library, hfind, -, hcopies⟩ := copyGrammar_eq_ok hlibrary
  obtain ⟨hpreferred, hfound⟩ := eq_preferredLibrary hfind
  have hfiles : w'.files = w₆.files := by
    rw [← still_isConfigured summary.checkout s w₆, hconfigured]
  refine ⟨{
    resolved := w₁.files, cleaned := w₂.files, generated := w₃.files, built := w₄.files
    copied := w₅.files, removed, library
    resolves := Task.turns_of_eq hresolve
    cleans := (Task.turns_of_eq hclean :)
    fresh := fun p hp => lookup_of_removeAll hclean p (.inl hp)
    generates := hgenerates
    builds := hbuilds
    preferred := hpreferred
    found := hfound
    copies := hcopies
    installs := hfiles ▸ Task.turns_of_eq hqueries
    runs := ?_
    alone := fun tool htool htool' => ?_ }⟩
  · have hsilent : ∀ {α : Type} {t : Task α} {u v : World} {a : α}, Aside t →
        t s u = (.ok a, v) → toolRuns v.notes = toolRuns u.notes := by
      intro α t u v a ht hrun
      rw [← ht.silent s u, hrun]
    rw [hsilent (aside_isConfigured _) hconfigured, hsilent (aside_copyQueries _ _) hqueries,
      hsilent (aside_copyGrammar _ _) hlibrary, hruns', hruns,
      hsilent (aside_removeAll _) hclean, toolRuns, List.filterMap_append]
    rw [← hsilent (aside_resolve _ _) hresolve]
    simp [toolRuns, toolRun?, event]
  · refine deploy_eq_ok.mpr ⟨hgrammar, w₁, w₄, w₅, w₆, ?_, ?_, ?_, ?_, ?_⟩
    · rw [(aside_resolve _ _).same, hresolve]
    · rw [prepare, if_neg (by simp [hbuild])]
      refine build_eq_ok.mpr ⟨removed, w₂, w₃, ?_, ?_, ?_⟩
      · rw [clean, (aside_removeAll _).same]
        exact hclean
      · rw [runTool_congr htool, hgenerate]
      · rw [runTool_congr htool', hbuilt]
    · rw [(aside_copyGrammar _ _).same, hlibrary]
    · rw [(aside_copyQueries _ _).same, hqueries]
    · rw [(aside_isConfigured _).same, hconfigured]

/-- A grammar whose library is a link to an old one, beside a checkout. -/
def linkedWorld : World where
  files := .mk [(["g"], .directory), (["g", "grammar.js"], .file [] false),
    (["g", "harneet.so"], .link (Path.ofString "/h/old.so")),
    (["g", "queries"], .directory),
    (["g", "queries", "locals.scm"], .file [40, 41] false),
    (["h"], .directory), (["h", "old.so"], .file [0] true),
    (["h", "runtime"], .directory), (["h", "languages.toml"], .file [] false)]

/-- Surroundings in which the build tool writes a library where it is started. -/
def writingSurroundings : Surroundings where
  workingDirectory := []
  home := none
  tool _ place fs :=
    (.ended (.status 0) [], fs.insert (place ++ [("harneet.so" : Name)]) (.file [1] true))

/-- The deployment of that grammar to the checkout, with a build. -/
def buildingPlan : Plan := ⟨Path.ofString "/g", some (Path.ofString "/h"), false⟩

/-- The deployment succeeds, so the old library was gone when the build began. -/
theorem exists_course_linked : buildingPlan.skipBuild = false ∧ ∃ summary w',
    deploy buildingPlan writingSurroundings linkedWorld = (.ok summary, w')
      ∧ Nonempty (Course buildingPlan writingSurroundings linkedWorld summary w') := by
  have hok : (deploy buildingPlan writingSurroundings linkedWorld).1.toBool = true := by
    decide +kernel
  generalize hrun : deploy buildingPlan writingSurroundings linkedWorld = outcome at hok
  obtain ⟨e | summary, w'⟩ := outcome
  · cases hok
  · exact ⟨rfl, summary, w', rfl, exists_course rfl hrun⟩

end Deployment

end SyntaxKit
