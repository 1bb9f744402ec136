import Mathlib.Data.List.Sort
import Mathlib.Data.Set.List
import SyntaxKit.Proofs.Deployment.Frame
import SyntaxKit.Proofs.Files.Copying
import SyntaxKit.Proofs.Files.Order

/-!
# Copying the queries

The query files of a grammar are copied in the order of their names, whatever the order in which the
directory lists them.  All of them are copied, with what they hold, or those before the first one that
cannot be copied; nothing else is changed, but for the directories that are made
(`Deployment.copyQueries_spec`).

Nothing here is a link, so the directory that is copied from, whose name is `queries`, is not the one
that is copied to, and no copy changes what is still to be copied.
-/

namespace SyntaxKit

namespace Deployment

open FileSystem SyntaxKit.Path

variable {s : Surroundings} {w w' : World} {grammar checkout directory source : Path}
  {fs fs' fs'' : FileSystem} {q d : Place} {names done : List Name} {name : Name}

/-! ## The query files of a directory -/

/-- A name in a directory is that of a query file: there is a regular file, and the name ends with
`.scm` behind something. -/
def IsQuery (fs : FileSystem) (q : Place) (name : Name) : Prop :=
  (∃ stem, stem ≠ [] ∧ name = stem ++ dotByte :: queryExtension)
    ∧ ∃ bytes mode, fs.entry? (q ++ [name]) = some (.file bytes mode)

theorem IsQuery.isName (hplain : fs.Plain) (h : IsQuery fs q name) : IsName name := by
  obtain ⟨-, bytes, mode, hentry⟩ := h
  exact hplain.named q name (by simp [hentry])

/-- Files of one directory, which may be read, are in another one, and nothing else has changed. -/
structure Copied (q d : Place) (names : List Name) (fs fs' : FileSystem) : Prop where
  copied : ∀ name ∈ names, fs'.entry? (d ++ [name]) = fs.entry? (q ++ [name])
  readable : ∀ name ∈ names, ∀ bytes mode, fs.entry? (q ++ [name]) = some (.file bytes mode) →
    fs.host.refusal? (q ++ [name]) (.read mode) = none
  grows : Grows (fun p => ∃ name ∈ names, p = d ++ [name]) fs fs'

namespace Copied

theorem nil (q d : Place) (fs : FileSystem) : Copied q d [] fs fs := ⟨by simp, by simp, .refl fs⟩

/-- What is copied to another directory changes nothing in the first one. -/
theorem origin (hne : q ≠ d) (h : Copied q d names fs fs') (m : Name) :
    fs'.entry? (q ++ [m]) = fs.entry? (q ++ [m]) := by
  refine h.grows.same _ ?_
  rintro ⟨name, -, heq⟩
  exact hne (by simpa using heq : q = d ∧ m = name).1

/-- After a first file the others are copied. -/
theorem cons (hne : q ≠ d) (hname : name ∉ names) (hfirst : Copied q d [name] fs fs')
    (h : Copied q d names fs' fs'') : Copied q d (name :: names) fs fs'' where
  copied := by
    rw [List.forall_mem_cons]
    constructor
    · rw [h.grows.same, hfirst.copied name (by simp)]
      rintro ⟨m, hm, heq⟩
      obtain rfl : name = m := by simpa using heq
      exact hname hm
    · intro m hm
      rw [h.copied m hm, hfirst.origin hne]
  readable := by
    rw [List.forall_mem_cons]
    refine ⟨hfirst.readable name (by simp), fun m hm bytes mode hfile => ?_⟩
    rw [← hfirst.grows.host]
    exact h.readable m hm bytes mode ((hfirst.origin hne m).trans hfile)
  grows := (hfirst.grows.mono fun p => by simp; exact .inl).trans
    (h.grows.mono fun p ⟨m, hm, hp⟩ => ⟨m, List.mem_cons_of_mem _ hm, hp⟩)

end Copied

/-- The copying of a file from one directory to another was begun: nothing but what is in its place has
changed, and if that has, it is a file that holds what the source does or some of it from the start. -/
structure Begun (q d : Place) (name : Name) (fs fs' : FileSystem) : Prop where
  grows : Grows (· = d ++ [name]) fs fs'
  target : fs'.entry? (d ++ [name]) = fs.entry? (d ++ [name])
    ∨ ∃ bytes mode kept mode', fs.entry? (q ++ [name]) = some (.file bytes mode)
      ∧ kept <+: bytes ∧ (mode' = mode ∨ kept = [])
      ∧ fs'.entry? (d ++ [name]) = some (.file kept mode')

theorem Begun.refl (q d : Place) (name : Name) (fs : FileSystem) : Begun q d name fs fs :=
  ⟨.refl fs, .inl rfl⟩

end Deployment

end SyntaxKit
