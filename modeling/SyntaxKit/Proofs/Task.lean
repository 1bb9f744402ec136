import SyntaxKit.Task

/-!
# What tasks do

A task is a function of its surroundings and of the world it finds, so what it does can be read off
stage by stage.  A task that ends with a value went through both of its parts (`Task.bind_eq_ok`),
and the elementary tasks are told by what they give and what they leave.  Tasks that only look at the
files are `Task.Still`.
-/

namespace SyntaxKit

namespace Task

variable {α β : Type} {t : Task α} {f : α → Task β} {s : Surroundings} {w w' : World}

/-! ## Elementary tasks -/

@[simp] theorem run_pure (a : α) : (pure a : Task α) s w = (.ok a, w) := rfl

@[simp] theorem run_fail (e : Failure) : (fail e : Task α) s w = (.error e, w) := rfl

@[simp] theorem run_look (g : Surroundings → FileSystem → α) :
    look g s w = (.ok (g s w.files), w) := rfl

@[simp] theorem run_note (n : Note) : note n s w = (.ok (), { w with notes := w.notes ++ [n] }) :=
  rfl

@[simp] theorem run_record (e : Log.Event) :
    record e s w = (.ok (), { w with notes := w.notes ++ [.event e] }) := rfl

@[simp] theorem run_write (text : String) :
    write text s w = (.ok (), { w with notes := w.notes ++ [.text text] }) := rfl

@[simp] theorem run_changePartly (g : Surroundings → FileSystem → α × FileSystem) :
    changePartly g s w = (.ok (g s w.files).1, { w with files := (g s w.files).2 }) := rfl

theorem run_change (g : Surroundings → FileSystem → Except FileError FileSystem) :
    change g s w = match g s w.files with
      | .ok files => (.ok none, { w with files })
      | .error e => (.ok (some e), w) := rfl

/-- A change that is made gives no error. -/
theorem change_eq_none {g : Surroundings → FileSystem → Except FileError FileSystem}
    (h : change g s w = (.ok none, w')) :
    g s w.files = .ok w'.files ∧ w'.notes = w.notes := by
  rw [run_change] at h
  cases hg : g s w.files with
  | ok files =>
    rw [hg] at h
    simp only [Prod.mk.injEq, true_and] at h
    subst h
    exact ⟨rfl, rfl⟩
  | error e => simp [hg] at h

/-- A change that is not made leaves the world as it is. -/
theorem change_eq_some {g : Surroundings → FileSystem → Except FileError FileSystem} {e : FileError}
    (h : change g s w = (.ok (some e), w')) : g s w.files = .error e ∧ w' = w := by
  rw [run_change] at h
  cases hg : g s w.files with
  | ok files => simp [hg] at h
  | error e' =>
    rw [hg] at h
    simp only [Prod.mk.injEq, Except.ok.injEq, Option.some.injEq] at h
    exact ⟨congrArg _ h.1, h.2.symm⟩

/-! ## One task after another -/

theorem run_bind : (t >>= f) s w = match t s w with
    | (.ok a, w) => f a s w
    | (.error e, w) => (.error e, w) := rfl

/-- A task whose first part ends with a value goes on with it. -/
theorem run_bind_of_ok {a : α} (h : t s w = (.ok a, w')) : (t >>= f) s w = f a s w' := by
  rw [run_bind, h]

/-- A task whose first part fails ends there. -/
theorem run_bind_of_error {e : Failure} (h : t s w = (.error e, w')) :
    (t >>= f) s w = (.error e, w') := by
  rw [run_bind, h]

/-- **A task that ends with a value went through both of its parts.** -/
theorem bind_eq_ok {b : β} :
    (t >>= f) s w = (.ok b, w') ↔ ∃ a w₁, t s w = (.ok a, w₁) ∧ f a s w₁ = (.ok b, w') := by
  rw [run_bind]
  constructor
  · intro h
    generalize ht : t s w = result at h
    obtain ⟨e | a, w₁⟩ := result
    · simp at h
    · exact ⟨a, w₁, rfl, h⟩
  · rintro ⟨a, w₁, ht, hf⟩
    rw [ht]
    exact hf

/-- What holds from before a task to after it holds of one task after another, if it holds of both
and goes on from one to the other. -/
theorem bind_induction {R : World → World → Prop} (htrans : ∀ {u v x}, R u v → R v x → R u x)
    (ht : R w (t s w).2) (hf : ∀ a w₁, t s w = (.ok a, w₁) → R w₁ (f a s w₁).2) :
    R w ((t >>= f) s w).2 := by
  rw [run_bind]
  generalize hresult : t s w = result at ht
  obtain ⟨e | a, w₁⟩ := result
  · exact ht
  · exact htrans ht (hf a w₁ hresult)

/-! ## Tasks that change no file -/

/-- A task that leaves all files as they are. -/
def Still (t : Task α) : Prop := ∀ s w, (t s w).2.files = w.files

namespace Still

theorem pure (a : α) : Still (Pure.pure a : Task α) := fun _ _ => rfl

theorem fail (e : Failure) : Still (Task.fail e : Task α) := fun _ _ => rfl

theorem look (g : Surroundings → FileSystem → α) : Still (Task.look g) := fun _ _ => rfl

theorem record (e : Log.Event) : Still (Task.record e) := fun _ _ => rfl

theorem bind (ht : Still t) (hf : ∀ a, Still (f a)) : Still (t >>= f) := fun s w =>
  bind_induction (R := fun u v => v.files = u.files) (fun h h' => h'.trans h) (ht s w)
    fun a w₁ _ => hf a s w₁

end Still

end Task

end SyntaxKit
