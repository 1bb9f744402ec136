import SyntaxKit.Proofs.Deployment.Course
import SyntaxKit.Proofs.Files.Writing

/-!
# What a deployment leaves alone

A deployment without a build only writes, and it writes few paths (`Deployment.MayWrite`): the file that
keeps the path of the checkout, and some below the `runtime` directory of the checkout.  Whether it
succeeds or fails, and wherever it fails, where something has changed one of these paths leads
(`Deployment.exists_mayWrite`).  The grammar may lie in the checkout, or be the checkout.
-/

namespace SyntaxKit

namespace Deployment

open FileSystem SyntaxKit.Path

variable {α β : Type} {t : Task α} {f : α → Task β} {s : Surroundings} {w w' : World}
  {grammar checkout directory : Path} {plan : Plan} {written : Path → Prop} {place g : Place}
  {fs fs' : FileSystem} {file : Path}

/-- The library in a checkout, and the directories that are made for it and for the queries. -/
def installedPaths (checkout : Path) : List Path :=
  [(checkout.child "runtime").child "grammars",
    ((checkout.child "runtime").child "grammars").child "harneet.so",
    (checkout.child "runtime").child "queries",
    ((checkout.child "runtime").child "queries").child "harneet"]

/-- The paths that a deployment without a build may write. -/
inductive MayWrite (plan : Plan) (s : Surroundings) (w : World) : Path → Prop
  /-- A given path is saved if it is that of a checkout. -/
  | saved {given checkout : Path} (hgiven : plan.checkout = some given)
      (habsolute : (given.expandHome s.home).absolute? s.workingDirectory.path = some checkout)
      (hvalid : checkoutFault? s w.files checkout = none) :
      MayWrite plan s w (savedPathFile plan.grammar)
  /-- The library and the directories are made in the checkout that the deployment goes to. -/
  | installed {checkout p : Path}
      (hresolve : (resolve plan.grammar plan.checkout s w).1 = .ok checkout)
      (hp : p ∈ installedPaths checkout) : MayWrite plan s w p
  /-- The queries are made there under the names of the query files of the grammar. -/
  | query {checkout file : Path} {files : List Path} {name : Name}
      (hresolve : (resolve plan.grammar plan.checkout s w).1 = .ok checkout)
      (hlisted : queryFiles s w.files (plan.grammar.child "queries") = .ok files)
      (hfile : file ∈ files)
      (hname : file.fileName? = some name) :
      MayWrite plan s w
        ((((checkout.child "runtime").child "queries").child "harneet").join ⟨name⟩)

/-- A path that by its name is neither a directory of queries nor a query file. -/
def Apart (p : Path) : Prop :=
  ∃ (d : Path) (name : Name), p = d.join ⟨name⟩ ∧ IsName name ∧ name ≠ "queries"
    ∧ extensionOf? name ≠ some queryExtension

theorem apart_child {d : Path} {name : String} (hname : IsName name)
    (hqueries : (name : Name) ≠ "queries") (hextension : extensionOf? name ≠ some queryExtension) :
    Apart (d.child name) :=
  ⟨d, name, rfl, hname, hqueries, hextension⟩

/-! ## Tasks that write -/

theorem writes_bind {workingDirectory : Place}
    (ht : Writes workingDirectory written w.files (t s w).2.files)
    (hf : ∀ a w₁, t s w = (.ok a, w₁) → Writes workingDirectory written w.files w₁.files →
      Writes workingDirectory written w₁.files (f a s w₁).2.files) :
    Writes workingDirectory written w.files ((t >>= f) s w).2.files := by
  refine Task.bind_induction (R := fun u v => Writes workingDirectory written u.files v.files)
    (fun h h' => h.trans h') ht fun a w₁ hrun => hf a w₁ hrun ?_
  rwa [hrun] at ht

theorem writes_still {workingDirectory : Place} (ht : t.Still) (s : Surroundings) (w : World) :
    Writes workingDirectory written w.files (t s w).2.files := by
  rw [ht s w]
  exact .refl _

/-- After a task that changes no file, what is written is written by the next one. -/
theorem writes_bind_still {workingDirectory : Place} (ht : t.Still)
    (hf : ∀ a w₁, t s w = (.ok a, w₁) → w₁.files = w.files →
      Writes workingDirectory written w₁.files (f a s w₁).2.files) :
    Writes workingDirectory written w.files ((t >>= f) s w).2.files :=
  writes_bind (writes_still ht s w) fun a w₁ hrun _ => hf a w₁ hrun (by rw [← ht s w, hrun])

/-! ## The checkout -/

theorem still_absolute (p : Path) : (absolute p).Still := by
  refine (Task.Still.look _).bind fun q => ?_
  cases q with
  | some q => exact .pure q
  | none => exact .fail _

theorem still_validate (p : Path) : (validate p).Still := by
  refine (Task.Still.look _).bind fun fault => ?_
  cases fault with
  | some cause => exact .fail _
  | none => exact .record _

theorem still_loadSaved (grammar : Path) : (loadSaved grammar).Still := by
  refine (Task.Still.look _).bind fun result => ?_
  split
  · exact .pure _
  · exact .fail _
  · split
    · exact .fail _
    · split
      · exact .pure _
      · exact (still_absolute _).bind fun q => .pure _

theorem absolute_eq_ok {p q : Path} (h : absolute p s w = (.ok q, w')) :
    (p.expandHome s.home).absolute? s.workingDirectory.path = some q ∧ w' = w := by
  rw [absolute, Task.run_bind_of_ok (Task.run_look _)] at h
  cases habsolute : (p.expandHome s.home).absolute? s.workingDirectory.path with
  | some q' =>
    simp only [habsolute, Task.run_pure, Prod.mk.injEq, Except.ok.injEq] at h
    exact ⟨congrArg some h.1, h.2.symm⟩
  | none => simp [habsolute] at h

theorem validate_eq_ok {p : Path} (h : validate p s w = (.ok (), w')) :
    checkoutFault? s w.files p = none := by
  rw [validate, Task.run_bind_of_ok (Task.run_look _)] at h
  cases hfault : checkoutFault? s w.files p with
  | some cause => simp [hfault] at h
  | none => rfl

/-- A path that was resolved is that of a checkout. -/
theorem resolve_eq_ok {given : Option Path} (h : resolve grammar given s w = (.ok checkout, w')) :
    checkoutFault? s w.files checkout = none := by
  cases given with
  | some given =>
    obtain ⟨p, w₁, habsolute, hrest⟩ := Task.bind_eq_ok.mp h
    obtain ⟨⟨⟩, w₂, hvalidate, hrest⟩ := Task.bind_eq_ok.mp hrest
    obtain ⟨⟨⟩, w₃, -, hrest⟩ := Task.bind_eq_ok.mp hrest
    obtain ⟨rfl, -⟩ : p = checkout ∧ w₃ = w' := by simpa using hrest
    obtain ⟨-, rfl⟩ := absolute_eq_ok habsolute
    exact validate_eq_ok hvalidate
  | none =>
    obtain ⟨saved, w₁, hsaved, hrest⟩ := Task.bind_eq_ok.mp h
    cases saved with
    | none => simp at hrest
    | some p =>
      obtain ⟨⟨⟩, w₂, hrecord, hrest⟩ := Task.bind_eq_ok.mp hrest
      obtain ⟨⟨⟩, w₃, hvalidate, hrest⟩ := Task.bind_eq_ok.mp hrest
      obtain ⟨rfl, -⟩ : p = checkout ∧ w₃ = w' := by simpa using hrest
      have hfiles : w₂.files = w.files := by
        rw [← still_loadSaved grammar s w, hsaved, ← Task.Still.record _ s w₁, hrecord]
      exact hfiles ▸ validate_eq_ok hvalidate

theorem writes_save (grammar checkout : Path) (s : Surroundings) (w : World) :
    Writes s.workingDirectory (· = savedPathFile grammar) w.files
      (save grammar checkout s w).2.files := by
  refine writes_bind (writes_write _ _ _ _) fun fault w₁ _ _ => ?_
  cases fault with
  | some e => exact .refl _
  | none => exact .refl _

/-- What is written to find the checkout: a given path that is one is saved. -/
theorem writes_resolve (plan : Plan) (s : Surroundings) (w : World) :
    Writes s.workingDirectory (fun p => Apart p ∧ MayWrite plan s w p) w.files
      (resolve plan.grammar plan.checkout s w).2.files := by
  cases hgiven : plan.checkout with
  | none =>
    refine writes_still (Task.Still.bind (still_loadSaved _) fun saved => ?_) s w
    cases saved with
    | none => exact .fail _
    | some p => exact (Task.Still.record _).bind fun _ => (still_validate p).bind fun _ => .pure _
  | some given =>
    refine writes_bind_still (still_absolute given) fun p w₁ habsolute _ => ?_
    obtain ⟨hp, rfl⟩ := absolute_eq_ok habsolute
    refine writes_bind_still (still_validate p) fun _ w₂ hvalidate _ => ?_
    refine writes_bind ((writes_save _ _ s w₂).mono ?_) fun _ w₃ _ _ => .refl _
    rintro q rfl
    exact ⟨apart_child (by decide) (by decide) (by decide),
      .saved hgiven hp (validate_eq_ok hvalidate)⟩

/-! ## The library -/

theorem writes_copyInto {source target : Path}
    (hmake : Writes s.workingDirectory written w.files
      (w.files.makeDirectories s.workingDirectory directory).2) (htarget : written target) :
    Writes s.workingDirectory written w.files (copyInto directory source target s w).2.files := by
  refine writes_bind hmake fun fault w₁ _ _ => ?_
  cases fault with
  | some e => exact .refl _
  | none =>
    refine (writes_copy w₁.files s.workingDirectory source target).mono ?_
    rintro p rfl
    exact htarget

/-- What is written to install the library: its directory and itself. -/
theorem writes_copyGrammar (grammar : Path) (hlinkless : w.files.Linkless)
    (hruntime : w.files.lookup s.workingDirectory (checkout.child "runtime") true
      = .ok (place, .directory)) :
    Writes s.workingDirectory (fun p => Apart p ∧ p ∈ installedPaths checkout) w.files
      (copyGrammar grammar checkout s w).2.files := by
  have hgrammars : Apart ((checkout.child "runtime").child "grammars") :=
    apart_child (by decide) (by decide) (by decide)
  have hlibrary : Apart (((checkout.child "runtime").child "grammars").child "harneet.so") :=
    apart_child (by decide) (by decide) (by decide)
  refine writes_bind_still (.look _) fun library w₁ _ hfiles => ?_
  rw [← hfiles] at hlinkless hruntime
  cases library with
  | none => exact .refl _
  | some library =>
    have hname : languageName ++ ".so" = "harneet.so" := by decide
    rw [hname]
    refine writes_bind (writes_copyInto ?_ ⟨hlibrary, by simp [installedPaths]⟩)
      fun fault w₂ _ _ => ?_
    · refine (writes_makeDirectories hlinkless (by decide) hruntime).mono ?_
      rintro p rfl
      exact ⟨hgrammars, by simp [installedPaths, child, ofString]⟩
    · cases fault with
      | some e => exact .refl _
      | none => exact .refl _

/-! ## The queries -/

theorem isName_queries : IsName "queries" := by decide

theorem writes_copyAll (directory : Path) (files : List Path) (s : Surroundings) (w : World) :
    Writes s.workingDirectory
      (fun p => ∃ file ∈ files, ∃ name, file.fileName? = some name ∧ p = directory.join ⟨name⟩)
      w.files (copyAll directory files s w).2.files := by
  induction files generalizing w with
  | nil => exact .refl _
  | cons file rest ih =>
    have hrest (u : World) : Writes s.workingDirectory
        (fun p => ∃ file' ∈ file :: rest, ∃ name, file'.fileName? = some name
          ∧ p = directory.join ⟨name⟩) u.files (copyAll directory rest s u).2.files :=
      (ih u).mono fun p ⟨file', hmem, hp⟩ => ⟨file', List.mem_cons_of_mem _ hmem, hp⟩
    rw [copyAll]
    cases hname : file.fileName? with
    | none => exact hrest w
    | some name =>
      refine writes_bind ((writes_copy w.files s.workingDirectory file _).mono ?_)
        fun fault w₁ _ _ => ?_
      · rintro p rfl
        exact ⟨file, List.mem_cons_self, name, hname, rfl⟩
      · cases fault with
        | some e => exact .refl _
        | none =>
          exact writes_bind_still (.record _) fun _ w₂ _ _ =>
            writes_bind (hrest w₂) fun _ w₃ _ _ => .refl _

/-- What is written to install the queries: two directories, and files in one of them with the names of
the query files that are there then. -/
theorem writes_copyQueries (hlinkless : w.files.Linkless)
    (hruntime : w.files.lookup s.workingDirectory (checkout.child "runtime") true
      = .ok (place, .directory)) :
    Writes s.workingDirectory
      (fun p => p ∈ installedPaths checkout
        ∨ ∃ files, queryFiles s w.files (grammar.child "queries") = .ok files
          ∧ ∃ file ∈ files, ∃ name, file.fileName? = some name
            ∧ p = (((checkout.child "runtime").child "queries").child "harneet").join ⟨name⟩)
      w.files (copyQueries grammar checkout s w).2.files := by
  refine writes_bind_still (.look _) fun found w₁ _ hfiles => ?_
  rw [← hfiles] at hlinkless hruntime ⊢
  split
  · exact .refl _
  · refine writes_bind_still (.look _) fun result w₂ hlook hfiles => ?_
    obtain ⟨hlisted, rfl⟩ : queryFiles s w₁.files (grammar.child "queries") = result ∧ w₁ = w₂ := by
      simpa using hlook
    rw [hlisted]
    cases result with
    | error e => exact .refl w₁.files
    | ok files =>
      cases files with
      | nil => exact .refl w₁.files
      | cons file rest =>
        refine writes_bind ?_ fun fault w₂ _ _ => ?_
        · refine (writes_makeDirectories_join hlinkless isName_queries (by decide) hruntime).mono ?_
          rintro p (rfl | rfl)
          · exact .inl (by simp [installedPaths, child, ofString])
          · exact .inl (by simp [installedPaths, child, ofString, languageName])
        · cases fault with
          | some e => exact .refl _
          | none =>
            refine writes_bind ?_ fun copied w₃ _ _ => ?_
            · exact (writes_copyAll _ _ s w₂).mono fun p hp => .inr ⟨_, rfl, hp⟩
            · exact writes_bind_still (.record _) fun _ w₄ _ _ => .refl _

/-- The query files are listed where the path leads to a directory that may be listed. -/
theorem queryFiles_eq_ok {files : List Path} : queryFiles s fs directory = .ok files ↔
    ∃ place, fs.lookup s.workingDirectory directory true = .ok (place, .directory)
      ∧ fs.host.refusal? place .list = none
      ∧ files = queryPaths s fs directory (fs.names place) := by
  rw [queryFiles]
  cases hlist : fs.list s.workingDirectory directory with
  | error e =>
    simp only [Except.map, reduceCtorEq, false_iff]
    rintro ⟨place, hlookup, hallowed, -⟩
    rw [list_eq_ok.mpr ⟨place, hlookup, hallowed, rfl⟩] at hlist
    cases hlist
  | ok names =>
    obtain ⟨place, hlookup, hallowed, rfl⟩ := list_eq_ok.mp hlist
    simp [Except.map, hlookup, hallowed, eq_comm]

theorem mem_queryPaths {names : List Name} : file ∈ queryPaths s fs directory names ↔
    ∃ name ∈ names, file = directory.join ⟨name⟩ ∧ fs.isFile s.workingDirectory file = true
      ∧ file.extension? = some queryExtension := by
  rw [queryPaths, List.mem_mergeSort, List.mem_filter, List.mem_map]
  simp only [Bool.and_eq_true, beq_iff_eq]
  constructor
  · rintro ⟨⟨name, hname, rfl⟩, hfile⟩
    exact ⟨name, hname, rfl, hfile⟩
  · rintro ⟨name, hname, rfl, hfile⟩
    exact ⟨⟨name, hname, rfl⟩, hfile⟩

/-- Writing other paths changes nothing that has the name of a directory of queries or of a query
file. -/
theorem entry?_of_writes_apart (hlinkless' : fs'.Linkless)
    (hwrites : Writes s.workingDirectory Apart fs fs') {last : Name}
    (hlast : last = "queries" ∨ (IsName last → extensionOf? last = some queryExtension)) :
    fs'.entry? (place ++ [last]) = fs.entry? (place ++ [last]) := by
  refine hwrites.same _ ?_
  rintro ⟨p, ⟨d, name, rfl, hname, hne, hextension⟩, hlocate⟩
  obtain ⟨q, -, heq⟩ := (locate_join hlinkless' hname).mp hlocate
  obtain ⟨-, rfl⟩ : place = q ∧ last = name := by simpa using heq
  rcases hlast with rfl | hlast
  · exact hne rfl
  · exact hextension (hlast hname)

/-- **Writing other paths makes no query file.** -/
theorem mem_queryFiles_of_writes {files : List Path} (hplain : fs.Plain)
    (hgrammar : DirectoryAt fs s.workingDirectory grammar g)
    (hwrites : Writes s.workingDirectory Apart fs fs')
    (hlisted : queryFiles s fs' (grammar.child "queries") = .ok files) (hfile : file ∈ files) :
    ∃ files, queryFiles s fs (grammar.child "queries") = .ok files ∧ file ∈ files := by
  have hlinkless' := Grows.linkless hwrites hplain.linkless
  obtain ⟨place, hlookup, hallowed, rfl⟩ := queryFiles_eq_ok.mp hlisted
  obtain ⟨name, hmem, rfl, hisFile, hextension⟩ := mem_queryPaths.mp hfile
  have hscm : IsName name → extensionOf? name = some queryExtension := fun hname => by
    rwa [extension?_join hname] at hextension
  -- the file in the directory of the queries was there before, with a name that a path can tell
  have hentry := mem_names.mp hmem
  rw [entry?_of_writes_apart hlinkless' hwrites (.inr hscm)] at hentry
  have hname := hplain.named _ _ hentry
  obtain ⟨q, bytes, mode, hfound⟩ := isFile_eq_true.mp hisFile
  obtain ⟨hlocate, hq⟩ := lookup_eq_ok.mp hfound
  obtain ⟨hd, rfl⟩ := directoryAt_of_locate_join hlinkless' hname hlookup hlocate
  rw [entry?_of_writes_apart hlinkless' hwrites (.inr hscm)] at hq
  -- and so was that directory
  obtain ⟨g', hg', rfl, hsearch⟩ := (directoryAt_join isName_queries).mp hd
  obtain rfl := (Grows.directoryAt hwrites hgrammar).unique hg'
  have hdirectory := hsearch.directory
  rw [entry?_of_writes_apart hlinkless' hwrites (.inl rfl)] at hdirectory
  have hunbarred := hwrites.host ▸ hsearch.unbarred
  have hat : DirectoryAt fs s.workingDirectory (grammar.child "queries") (g ++ [("queries" : Name)]) :=
    (directoryAt_join isName_queries).mpr ⟨g, hgrammar, rfl, hdirectory, hunbarred⟩
  have hlookup : fs.lookup s.workingDirectory (grammar.child "queries") true
      = .ok (g ++ [("queries" : Name)], .directory) :=
    (lookup_eq_directory hplain.linkless hunbarred).mpr
      ⟨bytes_join_ne_nil isName_queries.toIsPart, hat⟩
  have hlocated : fs.locate s.workingDirectory ((grammar.child "queries").join ⟨name⟩) true
      = .ok (g ++ [("queries" : Name)] ++ [name]) :=
    (locate_join hplain.linkless hname).mpr ⟨_, hat, rfl⟩
  refine ⟨_, queryFiles_eq_ok.mpr ⟨_, hlookup, hwrites.host ▸ hallowed, rfl⟩,
    mem_queryPaths.mpr ⟨name, mem_names.mpr hentry, rfl, ?_, hextension⟩⟩
  exact isFile_eq_true.mpr ⟨_, bytes, mode, lookup_eq_ok.mpr ⟨hlocated, hq⟩⟩

/-! ## The deployment -/

theorem still_prepare (hskip : plan.skipBuild = true) : (prepare plan).Still := by
  rw [prepare, if_pos hskip]
  exact .record _

/-- What exists beside a path tells that its directory is there, and that it may be searched. -/
theorem exists_directoryAt_of_pathExists {name : String} (hlinkless : fs.Linkless)
    (hname : IsName name)
    (h : fs.pathExists s.workingDirectory (directory.child name) = true) :
    ∃ g, DirectoryAt fs s.workingDirectory directory g := by
  obtain ⟨q, e, hlookup⟩ := pathExists_eq_true.mp h
  obtain ⟨g, hg, -⟩ := (locate_join hlinkless hname).mp (lookup_eq_ok.mp hlookup).1
  exact ⟨g, hg⟩

/-- A checkout has a directory for the runtime. -/
theorem exists_lookup_runtime (h : checkoutFault? s fs checkout = none) :
    ∃ r, fs.lookup s.workingDirectory (checkout.child "runtime") true = .ok (r, .directory) := by
  rw [checkoutFault?] at h
  split at h
  · simp at h
  · split at h
    · simp at h
    · next hruntime => exact isDirectory_eq_true.mp (by simpa using hruntime)

/-- **A deployment without a build only writes, and only paths that it may write.** -/
theorem writes_deploy (hplain : w.files.Plain) (hskip : plan.skipBuild = true) :
    Writes s.workingDirectory (MayWrite plan s w) w.files (deploy plan s w).2.files := by
  refine writes_bind_still (.look _) fun found w₁ hlook _ => ?_
  obtain ⟨hfound, rfl⟩ : w.files.pathExists s.workingDirectory (plan.grammar.child "grammar.js")
      = found ∧ w = w₁ := by simpa using hlook
  cases found with
  | false => exact .refl _
  | true =>
    obtain ⟨g, hgrammar⟩ := exists_directoryAt_of_pathExists hplain.linkless (by decide) hfound
    have hresolved := writes_resolve plan s w
    refine writes_bind (hresolved.mono fun _ => And.right) fun checkout w₁ hresolve _ => ?_
    have hcheckout : (resolve plan.grammar plan.checkout s w).1 = .ok checkout := by rw [hresolve]
    rw [hresolve] at hresolved
    obtain ⟨r, hvalid⟩ := exists_lookup_runtime (resolve_eq_ok hresolve)
    refine writes_bind_still (.record _) fun _ w₂ _ hrecorded => ?_
    refine writes_bind_still (still_prepare hskip) fun _ w₃ _ hprepared => ?_
    dsimp only at hresolved
    rw [← hprepared.trans hrecorded] at hresolved
    have hruntime := Grows.lookup_directory hresolved hvalid
    have hlinkless := Grows.linkless hresolved hplain.linkless
    have hlibrary := writes_copyGrammar plan.grammar hlinkless hruntime
    refine writes_bind (hlibrary.mono fun p hp => .installed hcheckout hp.2)
      fun library w₄ hcopied _ => ?_
    rw [hcopied] at hlibrary
    -- nothing that was written so far changes the list of the queries
    have hapart : Writes s.workingDirectory Apart w.files w₄.files :=
      (hresolved.mono fun _ => And.left).trans (hlibrary.mono fun _ => And.left)
    refine writes_bind ((writes_copyQueries (Grows.linkless hlibrary hlinkless)
      (Grows.lookup_directory hlibrary hruntime)).mono ?_) fun queries w₅ _ _ => ?_
    · rintro p (hp | ⟨files', hlisted', file, hfile', name, hname, rfl⟩)
      · exact .installed hcheckout hp
      · obtain ⟨files, hlisted, hfile⟩ :=
          mem_queryFiles_of_writes hplain hgrammar hapart hlisted' hfile'
        exact .query hcheckout hlisted hfile hname
    · exact writes_bind_still (still_isConfigured checkout) fun _ w₆ _ _ => .refl _

/-- **A deployment without a build leaves all else as it is.**  Whether it succeeds or fails, what it
has changed is what one of the paths that it may write leads to. -/
theorem exists_mayWrite (hplain : w.files.Plain) (hskip : plan.skipBuild = true) {q : Place}
    (hq : (deploy plan s w).2.files.entry? q ≠ w.files.entry? q) :
    ∃ p, MayWrite plan s w p
      ∧ (deploy plan s w).2.files.locate s.workingDirectory p true = .ok q := by
  by_contra hnot
  exact hq ((writes_deploy hplain hskip).same q hnot)

/-- A checkout with a grammar in it. -/
def nestedWorld : World where
  files := .mk [(["h"], .directory), (["h", "runtime"], .directory),
    (["h", "languages.toml"], .file [] false), (["h", "g"], .directory),
    (["h", "g", "grammar.js"], .file [] false),
    (["h", "g", "harneet.so"], .file [1] true),
    (["h", "g", "queries"], .directory),
    (["h", "g", "queries", "locals.scm"], .file [40, 41] false)]

/-- The deployment of that grammar to the checkout, without a build. -/
def installingPlan : Plan := ⟨Path.ofString "/h/g", some (Path.ofString "/h"), true⟩

/-- The library appears in the checkout. -/
theorem exists_mayWrite_nested :
    nestedWorld.files.Plain ∧ installingPlan.skipBuild = true
    ∧ (deploy installingPlan writingSurroundings nestedWorld).2.files.entry?
        ["h", "runtime", "grammars", "harneet.so"]
      ≠ nestedWorld.files.entry?
        ["h", "runtime", "grammars", "harneet.so"]
    ∧ ∃ p, MayWrite installingPlan writingSurroundings nestedWorld p
      ∧ (deploy installingPlan writingSurroundings nestedWorld).2.files.locate [] p true
        = .ok ["h", "runtime", "grammars", "harneet.so"] := by
  have hplain : nestedWorld.files.Plain :=
    plain_of_entries (by simp [nestedWorld]) (by decide)
  have hchanged : (deploy installingPlan writingSurroundings nestedWorld).2.files.entry?
        ["h", "runtime", "grammars", "harneet.so"]
      ≠ nestedWorld.files.entry?
        ["h", "runtime", "grammars", "harneet.so"] := by
    decide +kernel
  exact ⟨hplain, rfl, hchanged, exists_mayWrite hplain rfl hchanged⟩

end Deployment

end SyntaxKit
