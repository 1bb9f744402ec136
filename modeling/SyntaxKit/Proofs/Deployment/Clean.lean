import Mathlib.Data.List.Nodup
import SyntaxKit.Proofs.Deployment.Course
import SyntaxKit.Proofs.Files.Following

/-!
# Cleaning

To clean is to remove the outputs of an earlier build one after the other.  Those that are there are
taken away, a link itself and not what it stands for, and nothing else is changed; what cannot be
removed ends the cleaning, and the error names it (`Deployment.clean_spec`).

Each output is looked for when its turn comes.  So one to which the path leads through an earlier one,
which can only be a link, is not found any more: it is not listed, and what was there stays
(`Deployment.clean_detour`).
-/

namespace SyntaxKit

namespace Deployment

open FileSystem

variable {s : Surroundings} {w w' : World} {grammar p q : Path} {ps removed : List Path}
  {fs fs' : FileSystem} {workingDirectory place : Place}

/-- Some of the files at some paths have been removed, one after the other: `removed` lists the paths
of those there were. -/
structure Cleared (workingDirectory : Place) (ps removed : List Path) (fs fs' : FileSystem) :
    Prop where
  host : fs'.host = fs.host
  order : removed.Sublist ps
  /-- A path is listed if there was a file or a link at its end, and the path did not lead through one
  that was removed before. -/
  mem : ∀ before p after, ps = before ++ p :: after →
    (p ∈ removed ↔ (∃ place, fs.EndsAt workingDirectory p place)
      ∧ ∀ q ∈ before, q ∈ removed → ∀ place, fs.EndsAt workingDirectory q place →
        ¬ fs.LeadsThrough workingDirectory p place)
  /-- None of the paths leads anywhere any more, not even to a link. -/
  gone : ∀ p ∈ ps, fs'.lookup workingDirectory p false = .error .notFound
  taken : ∀ p ∈ removed, ∀ place, fs.EndsAt workingDirectory p place → fs'.entry? place = none
  same : ∀ place, (∀ p ∈ removed, ¬ fs.EndsAt workingDirectory p place) →
    fs'.entry? place = fs.entry? place

namespace Cleared

theorem exists_endsAt (h : Cleared workingDirectory ps removed fs fs') (hp : p ∈ removed) :
    ∃ place, fs.EndsAt workingDirectory p place := by
  obtain ⟨before, after, hps⟩ := List.append_of_mem (h.order.subset hp)
  exact ((h.mem before p after hps).mp hp).1

theorem nil (workingDirectory : Place) (fs : FileSystem) : Cleared workingDirectory [] [] fs fs where
  host := rfl
  order := .slnil
  mem before p after h := by simp at h
  gone := by simp
  taken := by simp
  same := by simp

/-- There is nothing at the first path. -/
theorem cons_absent (h : Cleared workingDirectory ps removed fs fs') (hp : p ∉ ps)
    (habsent : fs.lookup workingDirectory p false = .error .notFound)
    (hgone : fs'.lookup workingDirectory p false = .error .notFound) :
    Cleared workingDirectory (p :: ps) removed fs fs' where
  host := h.host
  order := h.order.cons p
  mem before q after hsplit := by
    cases before with
    | nil =>
      obtain ⟨rfl, -⟩ := List.cons.inj hsplit
      refine iff_of_false (fun hmem => hp (h.order.subset hmem)) ?_
      rintro ⟨⟨place, e, hlookup, -⟩, -⟩
      simp [habsent] at hlookup
    | cons r before =>
      obtain ⟨rfl, hrest⟩ := List.cons.inj hsplit
      rw [h.mem before q after hrest, List.forall_mem_cons]
      exact and_congr_right fun _ => (and_iff_right fun hmem => absurd (h.order.subset hmem) hp).symm
  gone := List.forall_mem_cons.mpr ⟨hgone, h.gone⟩
  taken := h.taken
  same := h.same

/-- What is at the end of the first path is taken away, and the others are cleared then. -/
theorem cons_present (h : Cleared workingDirectory ps removed (fs.erase place) fs') (hp : p ∉ ps)
    (hend : fs.EndsAt workingDirectory p place)
    (hgone : fs'.lookup workingDirectory p false = .error .notFound) :
    Cleared workingDirectory (p :: ps) (p :: removed) fs fs' := by
  have hroot := hend.ne_root
  refine ⟨h.host, h.order.cons_cons p, fun before q after hsplit => ?_, ?_, ?_, fun r hr => ?_⟩
  · cases before with
    | nil =>
      obtain ⟨rfl, -⟩ := List.cons.inj hsplit
      exact iff_of_true List.mem_cons_self ⟨⟨place, hend⟩, by simp⟩
    | cons p' before =>
      obtain ⟨rfl, hrest⟩ := List.cons.inj hsplit
      have hne {q' : Path} (hq' : q' ∈ ps) : q' ≠ p := fun heq => hp (heq ▸ hq')
      have hq : q ∈ ps := by simp [hrest]
      have hmem {q' : Path} (hq' : q' ∈ before) : q' ∈ p :: removed ↔ q' ∈ removed :=
        List.mem_cons.trans (or_iff_right (hne (by simp [hrest, hq'])))
      rw [List.mem_cons, or_iff_right (hne hq), h.mem before q after hrest, List.forall_mem_cons]
      constructor
      · rintro ⟨⟨r, hr⟩, hothers⟩
        obtain ⟨hq, hthrough⟩ := hr.of_erase hroot
        refine ⟨⟨r, hq⟩, fun _ r' hr' => ?_, fun q' hq' hlisted r' hr' => ?_⟩
        · rwa [← hend.unique hr']
        · rw [hmem hq'] at hlisted
          obtain ⟨r'', hr''⟩ := h.exists_endsAt hlisted
          rw [← (hr''.of_erase hroot).1.unique hr', ← leadsThrough_erase hroot hr''.ne_root hr]
          exact hothers q' hq' hlisted r'' hr''
      · rintro ⟨⟨r, hr⟩, hfirst, hothers⟩
        have hr' := hr.erase hroot (hfirst List.mem_cons_self place hend)
        refine ⟨⟨r, hr'⟩, fun q' hq' hlisted r' hr'' => ?_⟩
        rw [leadsThrough_erase hroot hr''.ne_root hr']
        exact hothers q' hq' ((hmem hq').mpr hlisted) r' (hr''.of_erase hroot).1
  · exact List.forall_mem_cons.mpr ⟨hgone, h.gone⟩
  · rw [List.forall_mem_cons]
    constructor
    · intro r hr
      rw [← hend.unique hr]
      by_cases hlisted : ∃ q ∈ removed, (fs.erase place).EndsAt workingDirectory q place
      · obtain ⟨q, hq, hq'⟩ := hlisted
        exact h.taken q hq place hq'
      · rw [h.same place fun q hq hq' => hlisted ⟨q, hq, hq'⟩, entry?_erase hroot, if_pos rfl]
    · intro q hq r hr
      obtain ⟨r', hr'⟩ := h.exists_endsAt hq
      rw [← (hr'.of_erase hroot).1.unique hr]
      exact h.taken q hq r' hr'
  · rw [List.forall_mem_cons] at hr
    rw [h.same r fun q hq hq' => hr.2 q hq (hq'.of_erase hroot).1]
    exact entry?_erase_of_ne hroot fun heq => hr.1 (heq ▸ hend)

end Cleared

/-! ## Removing one after the other -/

/-- What is noted of a file that was removed. -/
def removedNote (p : Path) : Note :=
  .event (event .debug "Removed build artifact" [("path", toString p)])

/-- **One step of removing**: what is there is removed and listed, what is not there is passed over, and
what cannot be removed ends it. -/
theorem run_removeAll_cons (p : Path) (ps : List Path) (s : Surroundings) (w : World) :
    removeAll (p :: ps) s w = match w.files.remove s.workingDirectory p with
      | .ok files =>
        match removeAll ps s { files, notes := w.notes ++ [removedNote p] } with
        | (.ok removed, w') => (.ok (p :: removed), w')
        | (.error failure, w') => (.error failure, w')
      | .error .notFound => removeAll ps s w
      | .error cause => (.error (.deployment .clean (.access p cause)), w) := by
  rw [removeAll, Task.run_bind, Task.run_change]
  cases w.files.remove s.workingDirectory p with
  | ok files =>
    dsimp only
    rw [Task.run_bind_of_ok (Task.run_record _), Task.run_bind]
    dsimp only [removedNote]
    generalize removeAll ps s _ = result
    obtain ⟨failure | removed, w'⟩ := result <;> rfl
  | error cause => cases cause <;> rfl

theorem cleared_of_removeAll (hps : ps.Nodup) (h : removeAll ps s w = (.ok removed, w')) :
    Cleared s.workingDirectory ps removed w.files w'.files := by
  induction ps generalizing w removed with
  | nil =>
    rw [removeAll, Task.run_pure, Prod.mk.injEq, Except.ok.injEq] at h
    obtain ⟨rfl, rfl⟩ := h
    exact .nil _ _
  | cons p rest ih =>
    obtain ⟨hp, hrest⟩ := List.nodup_cons.mp hps
    have hgone := lookup_of_removeAll h p (.inl List.mem_cons_self)
    rw [run_removeAll_cons] at h
    split at h
    · next files hremove =>
      obtain ⟨place, hend, -, rfl⟩ := remove_eq_ok.mp hremove
      split at h
      · next others w₁ hothers =>
        rw [Prod.mk.injEq, Except.ok.injEq] at h
        obtain ⟨rfl, rfl⟩ := h
        exact (ih hrest hothers).cons_present hp hend hgone
      · simp at h
    · next hremove => exact (ih hrest h).cons_absent hp (remove_eq_notFound hremove) hgone
    · simp at h

/-- Where some files have been removed, a path leads where it led before, or nowhere. -/
theorem lookup_removeAll (h : removeAll ps s w = (.ok removed, w')) (q : Path) :
    w'.files.lookup s.workingDirectory q false = w.files.lookup s.workingDirectory q false
      ∨ w'.files.lookup s.workingDirectory q false = .error .notFound := by
  induction ps generalizing w removed with
  | nil =>
    obtain ⟨-, rfl⟩ := Prod.mk.inj h
    exact .inl rfl
  | cons p rest ih =>
    rw [run_removeAll_cons] at h
    split at h
    · next files hremove =>
      obtain ⟨place, hend, -, rfl⟩ := remove_eq_ok.mp hremove
      split at h
      · next others w₁ hothers =>
        obtain ⟨-, rfl⟩ := Prod.mk.inj h
        rcases ih hothers with hsame | hnone
        · rw [hsame]
          exact lookup_erase w.files s.workingDirectory q false hend.ne_root
        · exact .inr hnone
      · simp at h
    · exact ih h
    · simp at h

/-- Removing ends at the first path that cannot be removed, after those before it. -/
theorem removeAll_eq_error {failure : Failure} (h : removeAll ps s w = (.error failure, w')) :
    ∃ before p after cause removed, ps = before ++ p :: after
      ∧ removeAll before s w = (.ok removed, w')
      ∧ failure = .deployment .clean (.access p cause)
      ∧ w'.files.remove s.workingDirectory p = .error cause ∧ cause ≠ .notFound := by
  induction ps generalizing w with
  | nil => simp [removeAll] at h
  | cons p rest ih =>
    rw [run_removeAll_cons] at h
    split at h
    · next files hremove =>
      split at h
      · simp at h
      · next failure' w₁ hrest =>
        rw [Prod.mk.injEq, Except.error.injEq] at h
        obtain ⟨rfl, rfl⟩ := h
        obtain ⟨before, q, after, cause, removed, rfl, hbefore, hfailure, hcause⟩ := ih hrest
        refine ⟨p :: before, q, after, cause, p :: removed, rfl, ?_, hfailure, hcause⟩
        simp only [run_removeAll_cons, hremove, hbefore]
    · next hremove =>
      obtain ⟨before, q, after, cause, removed, rfl, hbefore, hfailure, hcause⟩ := ih h
      refine ⟨p :: before, q, after, cause, removed, rfl, ?_, hfailure, hcause⟩
      simp only [run_removeAll_cons, hremove, hbefore]
    · next cause hne hremove =>
      rw [Prod.mk.injEq, Except.error.injEq] at h
      obtain ⟨rfl, rfl⟩ := h
      exact ⟨[], p, rest, cause, [], rfl, rfl, rfl, hremove, fun heq => hne (heq ▸ rfl)⟩

/-! ## The outputs of a build -/

theorem artifacts_eq (grammar : Path) : artifacts grammar
    = [grammar.child "harneet.so", grammar.child "harneet.dylib",
      (grammar.child "src").child "parser.c"] := by
  rw [artifacts, show libraryNames = ["harneet.so", "harneet.dylib"] by decide]
  rfl

/-- The names of the outputs of a build. -/
def artifactNames : List Name := ["harneet.so".toList, "harneet.dylib".toList, "parser.c".toList]

theorem fileName?_artifacts (grammar : Path) :
    (artifacts grammar).map Path.fileName? = artifactNames.map some := by
  have hname {name : String} (d : Path) (h : Path.IsName name.toList) :
      (d.child name).fileName? = some name.toList := Path.fileName?_join h
  rw [artifacts_eq, List.map_cons, List.map_cons, List.map_cons, hname _ (by decide),
    hname _ (by decide), hname _ (by decide)]
  rfl

theorem nodup_artifacts (grammar : Path) : (artifacts grammar).Nodup := by
  refine List.Nodup.of_map Path.fileName? ?_
  rw [fileName?_artifacts]
  decide

/-- What is at the end of the path of an output has the name of one. -/
theorem mem_artifactNames (hp : p ∈ artifacts grammar)
    (hend : fs.EndsAt workingDirectory p place) :
    ∃ q, ∃ name ∈ artifactNames, place = q ++ [name] := by
  obtain ⟨d, name, hname, hmem, rfl⟩ : ∃ (d : Path) (name : Name), Path.IsName name
      ∧ name ∈ artifactNames ∧ p = d.join ⟨name⟩ := by
    rw [artifacts_eq, List.mem_cons, List.mem_cons, List.mem_singleton] at hp
    rcases hp with rfl | rfl | rfl
    · exact ⟨_, _, by decide, by decide, rfl⟩
    · exact ⟨_, _, by decide, by decide, rfl⟩
    · exact ⟨_, _, by decide, by decide, rfl⟩
  obtain ⟨e, hlookup, -⟩ := hend
  obtain ⟨q, hq⟩ := exists_of_locate_join hname (lookup_eq_ok.mp hlookup).1
  exact ⟨q, name, hmem, hq⟩

/-- Where some outputs have been removed, everything with another name is as before. -/
theorem Cleared.entry?_of_notMem {name : Name}
    (h : Cleared workingDirectory ps removed fs fs') (hps : ∀ p ∈ ps, p ∈ artifacts grammar)
    (hname : name ∉ artifactNames) : fs'.entry? (place ++ [name]) = fs.entry? (place ++ [name]) := by
  refine h.same _ fun p hp hend => ?_
  obtain ⟨q, name', hmem, heq⟩ := mem_artifactNames (hps p (h.order.subset hp)) hend
  obtain ⟨-, rfl⟩ : place = q ∧ name = name' := by simpa using heq
  exact hname hmem

/-- **Cleaning removes the outputs of a build and nothing else.**  If it succeeds, the paths that it
lists are, in their order, those of the outputs at which there was a file or a link, and to which no
link led that was removed before; none of the outputs is there any more, not even as a link, and
nothing but what the listed paths led to has changed.  If it fails, the error names the first output
that cannot be removed, and those before it have been removed likewise.  Either way everything with
another name is as before. -/
theorem clean_spec (grammar : Path) (s : Surroundings) (w : World) :
    (match clean grammar s w with
      | (.ok removed, w') =>
        Cleared s.workingDirectory (artifacts grammar) removed w.files w'.files
      | (.error failure, w') => ∃ before p after cause removed,
        artifacts grammar = before ++ p :: after
          ∧ failure = .deployment .clean (.access p cause)
          ∧ w.files.remove s.workingDirectory p = .error cause ∧ cause ≠ .notFound
          ∧ Cleared s.workingDirectory before removed w.files w'.files)
      ∧ ∀ place name, name ∉ artifactNames →
        (clean grammar s w).2.files.entry? (place ++ [name]) = w.files.entry? (place ++ [name]) := by
  generalize hrun : clean grammar s w = outcome
  obtain ⟨failure | removed, w'⟩ := outcome
  · obtain ⟨before, p, after, cause, removed, hps, hbefore, hfailure, hremove, hcause⟩ :=
      removeAll_eq_error hrun
    have hnodup := hps ▸ nodup_artifacts grammar
    have hcleared := cleared_of_removeAll (List.Nodup.of_append_left hnodup) hbefore
    have hmem : ∀ q ∈ before, q ∈ artifacts grammar := fun q hq => by
      rw [hps]
      exact List.mem_append_left _ hq
    refine ⟨⟨before, p, after, cause, removed, hps, hfailure, ?_, hcause, hcleared⟩,
      fun place name hname => hcleared.entry?_of_notMem hmem hname⟩
    -- what cannot be removed now could not be removed at first
    rcases lookup_removeAll hbefore p with hsame | hnone
    · rw [remove_eq_error] at hremove ⊢
      rwa [hsame, hcleared.host] at hremove
    · rcases remove_eq_error.mp hremove with hlookup | ⟨place, e, hlookup, -⟩
      · exact absurd (Except.error.inj (hlookup.symm.trans hnone)) hcause
      · simp [hnone] at hlookup
  · have hcleared := cleared_of_removeAll (nodup_artifacts grammar) hrun
    exact ⟨hcleared, fun place name hname => hcleared.entry?_of_notMem (fun _ => id) hname⟩

/-- The place of a file that a build left. -/
def leftPlace : Place := ["g", "out", "parser.c"]

/-- A grammar whose `src` leads on through its library, which is a link to a directory. -/
def detourWorld : World where
  files := .mk [(["g"], .directory), (["g", "out"], .directory),
    (leftPlace, .file [0] false), (["g", "harneet.so"], .link (.ofString "out")),
    (["g", "src"], .link (.ofString "harneet.so"))]

/-- **What was there is not always removed and listed.**  The parser is there before, but the path leads
to it through the library, and that is removed first. -/
theorem clean_detour : Path.ofString "/g/src/parser.c" ∈ artifacts (.ofString "/g")
    ∧ detourWorld.files.EndsAt [] (.ofString "/g/src/parser.c") leftPlace
    ∧ (clean (.ofString "/g") writingSurroundings detourWorld).1
      = .ok [.ofString "/g/harneet.so"]
    ∧ (clean (.ofString "/g") writingSurroundings detourWorld).2.files.entry? leftPlace
      = some (.file [0] false) := by
  refine ⟨by decide +kernel, ⟨.file [0] false, ?_, by decide⟩, ?_, ?_⟩ <;> decide +kernel

end Deployment

end SyntaxKit
