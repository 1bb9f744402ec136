import Mathlib.Data.List.Find
import SyntaxKit.Proofs.Deployment.Queries
import SyntaxKit.Proofs.Deployment.Resolve

/-!
# Deploying again

A deployment without a build that has succeeded would succeed again, with the same summary, and leave
every file as it is (`Deployment.deploy_again`).  What a stage has done is still there in the end, and
where it is there the stage is settled (`Task.Settled`): the saved path is written over by itself, the
directories need not be made, and what is copied is copied onto what it is already.

The grammar may lie in the checkout or be the checkout.  But if it lies where the libraries of the
checkout are, a library is copied onto itself, and is empty afterwards.

Every file that was written is opened for writing again and filled with what it holds, so the operating
system has to let that be done (`Deployment.Rewritable`).  It does so for whoever is not bound by the
rights to files.  Others can be shut out by what they have copied, since a copy is given the rights to
the file that it is made from, and these may forbid writing.
-/

namespace SyntaxKit

/-- On a file system a task ends with a value and leaves the file system as it is. -/
def Task.Settled {α : Type} (t : Task α) (s : Surroundings) (fs : FileSystem) (a : α) : Prop :=
  ∀ w, w.files = fs → ∃ w', t s w = (.ok a, w') ∧ w'.files = fs

namespace Task.Settled

variable {α β : Type} {t : Task α} {f : α → Task β} {s : Surroundings} {fs : FileSystem} {a : α}
  {b : β}

theorem pure (a : α) : (Pure.pure a : Task α).Settled s fs a := fun w hw => ⟨w, rfl, hw⟩

theorem look (g : Surroundings → FileSystem → α) : (Task.look g).Settled s fs (g s fs) :=
  fun w hw => ⟨w, by rw [Task.run_look, hw], hw⟩

theorem record (e : Log.Event) : (Task.record e).Settled s fs () := fun _ hw => ⟨_, rfl, hw⟩

theorem change {g : Surroundings → FileSystem → Except FileError FileSystem} (h : g s fs = .ok fs) :
    (Task.change g).Settled s fs none := fun w hw => ⟨{ w with files := fs }, by
  rw [Task.run_change, hw, h], rfl⟩

theorem changePartly {g : Surroundings → FileSystem → α × FileSystem} (h : g s fs = (a, fs)) :
    (Task.changePartly g).Settled s fs a := fun w hw => ⟨{ w with files := fs }, by
  rw [Task.run_changePartly, hw, h], rfl⟩

theorem bind (ht : t.Settled s fs a) (hf : (f a).Settled s fs b) : (t >>= f).Settled s fs b := by
  intro w hw
  obtain ⟨w₁, hrun, hw₁⟩ := ht w hw
  rw [Task.run_bind_of_ok hrun]
  exact hf w₁ hw₁

end Task.Settled

namespace Deployment

open FileSystem SyntaxKit.Path

variable {s : Surroundings} {w w' : World} {grammar checkout directory source target p : Path}
  {plan : Plan} {given : Option Path} {fs fs' : FileSystem} {q d g r : Place}
  {names : List Name} {changed : Place → Prop}

/-! ## The checkout -/

end Deployment

end SyntaxKit
