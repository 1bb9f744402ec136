import SyntaxKit.Proofs.Files.Linkless

/-!
# Following paths

A path goes through directories and links, and what else there is makes no difference to where it
leads: file systems with the same directories and links lead it to the same place
(`FileSystem.Passable.locate`).  To follow a link at the end of a path makes a difference only if
there is one (`FileSystem.locate_true_eq`), and what leads to something below a path leads through
the directory there (`FileSystem.directory_of_locate_join`).
-/

namespace SyntaxKit

namespace FileSystem

open SyntaxKit.Path

variable {fs fs' : FileSystem} {workingDirectory here place q : Place} {p d : Path} {name : Name}
  {followLast : Bool} {onLink onLink' : Place → Path → List Move → Except FileError Place}

/-! ## From one file system to another -/

/-- All directories and links of a file system are in another one as well, and that has no other
links and refuses what the first one refuses. -/
structure Passable (fs fs' : FileSystem) : Prop where
  host : fs'.host = fs.host
  directory : ∀ q, fs.entry? q = some .directory → fs'.entry? q = some .directory
  link : ∀ q target, fs.entry? q = some (.link target) ↔ fs'.entry? q = some (.link target)

namespace Passable

/-- A step that can be taken can be taken again. -/
theorem obstacle? {m : Move} (h : Passable fs fs') (hstep : fs.obstacle? here m = none) :
    fs'.obstacle? here m = none := by
  obtain ⟨hdirectory, hbarrier⟩ := obstacle?_eq_none.mp hstep
  refine obstacle?_eq_none.mpr ⟨h.directory _ hdirectory, ?_⟩
  rwa [barrier?, h.host, ← barrier?]

theorem linkAhead? (h : Passable fs fs') (here : Place) (m : Move) :
    fs'.linkAhead? here m = fs.linkAhead? here m :=
  linkAhead?_congr fun target => h.link _ target

theorem follow (h : Passable fs fs')
    (honLink : ∀ here target ms q, onLink here target ms = .ok q → onLink' here target ms = .ok q)
    (ms : List Move) (hq : FileSystem.follow fs followLast onLink here ms = .ok q) :
    FileSystem.follow fs' followLast onLink' here ms = .ok q := by
  induction ms generalizing here with
  | nil => exact hq
  | cons m ms ih =>
    have hstep := obstacle?_of_follow hq
    rw [follow_cons, hstep] at hq
    rw [follow_cons, h.obstacle? hstep]
    dsimp only at hq ⊢
    rw [h.linkAhead?]
    split at hq
    · split at hq
      · next hlast => rwa [if_pos hlast]
      · next hlast =>
        rw [if_neg hlast]
        exact honLink _ _ _ _ hq
    · exact ih hq

theorem followLinks (h : Passable fs fs') (links : Nat) (ms : List Move)
    (hq : FileSystem.followLinks fs followLast links here ms = .ok q) :
    FileSystem.followLinks fs' followLast links here ms = .ok q := by
  induction links generalizing here ms q with
  | zero => exact h.follow (fun _ _ _ _ he => he) ms hq
  | succ links ih =>
    refine h.follow (fun here target ms q hlink => ?_) ms hq
    split
    · next hempty => rwa [if_pos hempty] at hlink
    · next hne =>
      rw [if_neg hne] at hlink
      exact ih _ hlink

/-- **A path that leads somewhere leads there as long as its directories and links stay.** -/
theorem locate (h : Passable fs fs') (hq : fs.locate workingDirectory p followLast = .ok q) :
    fs'.locate workingDirectory p followLast = .ok q := by
  rw [FileSystem.locate] at hq ⊢
  split
  · next hempty => rwa [if_pos hempty] at hq
  · next hne =>
    rw [if_neg hne] at hq
    exact h.followLinks _ _ hq

end Passable

/-! ## A link at the end -/

/-- What following a link at the end comes to, compared with not following it: the same, unless
there is one. -/
def EndsAlike (fs : FileSystem) (through plain : Except FileError Place) : Prop :=
  through = plain ∨ ∃ q target, plain = .ok q ∧ fs.entry? q = some (.link target)

theorem endsAlike_follow
    (honLink : ∀ here target ms, EndsAlike fs (onLink here target ms) (onLink' here target ms))
    (here : Place) (ms : List Move) :
    EndsAlike fs (follow fs true onLink here ms) (follow fs false onLink' here ms) := by
  induction ms generalizing here with
  | nil => exact .inl rfl
  | cons m ms ih =>
    rw [follow_cons, follow_cons]
    split
    · exact .inl rfl
    · split
      · next target htarget =>
        rw [Bool.not_true, Bool.and_false, if_neg Bool.false_ne_true]
        split
        · exact .inr ⟨_, target, rfl, (linkAhead?_eq_some.mp htarget).2⟩
        · exact honLink _ _ _
      · exact ih _

theorem endsAlike_followLinks (links : Nat) (here : Place) (ms : List Move) :
    EndsAlike fs (followLinks fs true links here ms) (followLinks fs false links here ms) := by
  induction links generalizing here ms with
  | zero => exact endsAlike_follow (fun _ _ _ => .inl rfl) here ms
  | succ links ih =>
    refine endsAlike_follow (fun here target ms => ?_) here ms
    split
    · exact .inl rfl
    · exact ih _ _

/-- **To follow a link at the end makes no difference where there is none.** -/
theorem locate_true_eq
    (h : ∀ q target,
      fs.locate workingDirectory p false = .ok q → fs.entry? q ≠ some (.link target)) :
    fs.locate workingDirectory p true = fs.locate workingDirectory p false := by
  have halike : EndsAlike fs (fs.locate workingDirectory p true)
      (fs.locate workingDirectory p false) := by
    rw [locate, locate]
    split
    · exact .inl rfl
    · exact endsAlike_followLinks _ _ _
  rcases halike with heq | ⟨q, target, hq, htarget⟩
  · exact heq
  · exact absurd htarget (h q target hq)

/-! ## On the way -/

/-- Steps that are followed are followed one after the other: there is a place between any two of
them, from which the rest of them leads on. -/
theorem exists_of_follow_append {goOn : Place → Prop} {m : Move} {rest : List Move}
    (hend : ∀ here, follow fs followLast onLink here (m :: rest) = .ok q → goOn here)
    (honLink : ∀ here target ms, onLink here target (ms ++ m :: rest) = .ok q →
      ∃ mid, onLink' here target ms = .ok mid ∧ goOn mid) (ms : List Move)
    (h : follow fs followLast onLink here (ms ++ m :: rest) = .ok q) :
    ∃ mid, follow fs true onLink' here ms = .ok mid ∧ goOn mid := by
  induction ms generalizing here with
  | nil => exact ⟨here, rfl, hend here h⟩
  | cons m' ms ih =>
    rw [List.cons_append, follow_cons] at h
    rw [follow_cons]
    split at h
    · simp at h
    · split at h
      · rw [if_neg (by simp)] at h
        rw [if_neg (by simp)]
        exact honLink _ _ _ h
      · exact ih h

theorem exists_of_followLinks_append {m : Move} {rest : List Move} (links : Nat) (ms : List Move)
    (h : followLinks fs followLast links here (ms ++ m :: rest) = .ok q) :
    ∃ mid, followLinks fs true links here ms = .ok mid
      ∧ ∃ links', followLinks fs followLast links' mid (m :: rest) = .ok q := by
  induction links generalizing here ms with
  | zero =>
    exact exists_of_follow_append (fun here hend => ⟨0, hend⟩) (fun _ _ _ hlink => by simp at hlink)
      ms h
  | succ links ih =>
    refine exists_of_follow_append (fun here hend => ⟨links + 1, hend⟩)
      (fun here target ms hlink => ?_) ms h
    split at hlink
    · simp at hlink
    · next hne =>
      rw [if_neg hne]
      rw [← List.append_assoc] at hlink
      exact ih _ hlink

/-- Steps lead on only from a directory. -/
theorem directory_of_followLinks {links : Nat} {m : Move} {rest : List Move}
    (h : followLinks fs followLast links here (m :: rest) = .ok q) :
    fs.entry? here = some .directory := by
  cases links with
  | zero | succ links => exact directory_of_follow h

/-- To arrive somewhere leads nowhere else. -/
theorem eq_of_followLinks_arrive {links : Nat}
    (h : followLinks fs followLast links here [.arrive] = .ok q) : q = here := by
  have hstep := obstacle?_arrive (directory_of_followLinks h)
  cases links with
  | zero | succ links =>
    rw [followLinks, follow_step hstep rfl] at h
    exact (Except.ok.inj h).symm

/-- **A name joined to a path leads somewhere only if the path leads to a directory.** -/
theorem directory_of_locate_join (hname : IsName name)
    (hd : fs.locate workingDirectory d true = .ok q)
    (hjoin : fs.locate workingDirectory (d.join ⟨name⟩) followLast = .ok place) :
    fs.entry? q = some .directory := by
  have hnonempty : d.bytes ≠ [] := by
    intro hempty
    rw [locate, if_pos hempty] at hd
    simp at hd
  rw [locate, if_neg (bytes_join_ne_nil hname.toIsPart), moves_join hname, start_join hname] at hjoin
  obtain ⟨mid, hmid, links, hlast⟩ := exists_of_followLinks_append _ _ hjoin
  have hdirectory := directory_of_followLinks hlast
  rw [locate, if_neg hnonempty, moves_eq] at hd
  -- a slash at the end of the path asks for the directory once more
  split at hd
  · obtain ⟨mid', hmid', links', harrive⟩ := exists_of_followLinks_append _ _ hd
    obtain rfl := Except.ok.inj (hmid.symm.trans hmid')
    rwa [eq_of_followLinks_arrive harrive]
  · rw [List.append_nil] at hd
    rwa [← Except.ok.inj (hmid.symm.trans hd)]

/-- A name joined to a path leads to an entry of that name, if a link at the end is not followed. -/
theorem exists_of_locate_join (hname : IsName name)
    (h : fs.locate workingDirectory (d.join ⟨name⟩) false = .ok place) :
    ∃ q, place = q ++ [name] := by
  rw [locate, if_neg (bytes_join_ne_nil hname.toIsPart), moves_join hname, start_join hname] at h
  obtain ⟨mid, -, links, hlast⟩ := exists_of_followLinks_append _ _ h
  have hend {onLink : Place → Path → List Move → Except FileError Place}
      (hfollow : follow fs false onLink mid [.enter name] = .ok place) : place = mid ++ [name] := by
    have hstep := obstacle?_of_follow hfollow
    cases hlink : fs.linkAhead? mid (.enter name) with
    | some target =>
      rw [follow_link hstep hlink] at hfollow
      exact (Except.ok.inj hfollow).symm
    | none =>
      rw [follow_step hstep hlink] at hfollow
      exact (Except.ok.inj hfollow).symm
  cases links with
  | zero | succ links => exact ⟨mid, hend hlast⟩

end FileSystem

end SyntaxKit
