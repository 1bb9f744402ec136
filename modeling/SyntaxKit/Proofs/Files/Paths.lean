import Mathlib.Data.List.Basic
import Mathlib.Data.List.Induction
import SyntaxKit.Files.System

/-!
# What a path is made of

A path is told by its components: a name that is joined to it is one component more
(`Path.components_join`), and joining the components of a path again gives a path of the same
components (`Path.components_ofComponents`), though maybe not the same bytes.
-/

namespace SyntaxKit

namespace Path

variable {p d : Path} {part : List UInt8} {name : Name}

/-! ## Stretches between slashes -/

theorem split_ne_nil (bytes : List UInt8) : split bytes ≠ [] := by
  induction bytes with
  | nil => simp [split]
  | cons c t ih =>
    rw [split]
    split
    · simp
    · split <;> simp

theorem split_append_slash (a b : List UInt8) : split (a ++ slashByte :: b) = split a ++ split b := by
  induction a with
  | nil => simp [split]
  | cons c t ih =>
    rw [List.cons_append, split, split, ih]
    by_cases hc : c = slashByte
    · simp [hc]
    · rw [if_neg hc, if_neg hc]
      cases ht : split t with
      | nil => exact absurd ht (split_ne_nil t)
      | cons head rest => simp

theorem split_of_notMem (h : slashByte ∉ part) : split part = [part] := by
  induction part with
  | nil => rfl
  | cons c t ih =>
    rw [List.mem_cons, not_or] at h
    rw [split, if_neg (Ne.symm h.1), ih h.2]

/-- A stretch between slashes that stands for a step. -/
structure IsPart (part : List UInt8) : Prop where
  nonempty : part ≠ []
  unslashed : slashByte ∉ part
  moving : part ≠ [dotByte]

/-- Bytes that can be the name of an entry. -/
structure IsName (name : Name) : Prop extends IsPart name where
  downward : name ≠ [dotByte, dotByte]

instance (name : Name) : Decidable (IsName name) :=
  decidable_of_iff (name ≠ [] ∧ slashByte ∉ name ∧ name ≠ [dotByte] ∧ name ≠ [dotByte, dotByte])
    ⟨fun ⟨h₁, h₂, h₃, h₄⟩ => ⟨⟨h₁, h₂, h₃⟩, h₄⟩, fun ⟨⟨h₁, h₂, h₃⟩, h₄⟩ => ⟨h₁, h₂, h₃, h₄⟩⟩

theorem isAbsolute_of_unslashed (h : slashByte ∉ part) : isAbsolute ⟨part⟩ = false := by
  cases part with
  | nil => rfl
  | cons c t =>
    rw [List.mem_cons, not_or] at h
    simpa [isAbsolute] using Ne.symm h.1

/-- Behind a joined part there is nothing, and before it what the path had. -/
theorem split_join (hpart : IsPart part) : ∃ init, split (d.join ⟨part⟩).bytes = init ++ [part]
    ∧ (split d.bytes = init ∨ split d.bytes = init ++ [[]]) ∧ (init = [] → d.bytes = []) := by
  rw [join, if_neg (by simp [isAbsolute_of_unslashed hpart.unslashed])]
  by_cases hempty : d.bytes = []
  · refine ⟨[], ?_, .inr (by simp [hempty, split]), fun _ => hempty⟩
    simp [hempty, split_of_notMem hpart.unslashed]
  · by_cases hslash : d.endsWithSlash = true
    · obtain ⟨front, hfront⟩ : ∃ front, d.bytes = front ++ [slashByte] :=
        List.getLast?_eq_some_iff.mp (by simpa [endsWithSlash] using hslash)
      refine ⟨split front, ?_, .inr ?_, fun h => absurd h (split_ne_nil _)⟩
      · rw [if_pos (by simp [hslash]), hfront, List.append_assoc, List.singleton_append,
          split_append_slash, split_of_notMem hpart.unslashed]
      · rw [hfront, split_append_slash]
        rfl
    · refine ⟨split d.bytes, ?_, .inl rfl, fun h => absurd h (split_ne_nil _)⟩
      rw [if_neg (by simp [hempty, hslash]), split_append_slash,
        split_of_notMem hpart.unslashed]

theorem exists_bytes_join (d : Path) (part : List UInt8) :
    ∃ front, (d.join ⟨part⟩).bytes = front ++ part := by
  rw [join]
  split
  · exact ⟨[], rfl⟩
  · split
    · exact ⟨d.bytes, rfl⟩
    · exact ⟨d.bytes ++ [slashByte], by simp⟩

theorem bytes_join_ne_nil (hpart : IsPart part) : (d.join ⟨part⟩).bytes ≠ [] := by
  obtain ⟨front, hfront⟩ := exists_bytes_join d part
  simp [hfront, hpart.nonempty]

theorem endsWithSlash_join (hpart : IsPart part) : (d.join ⟨part⟩).endsWithSlash = false := by
  obtain ⟨front, hfront⟩ := exists_bytes_join d part
  rw [endsWithSlash, hfront, List.getLast?_append_of_ne_nil _ hpart.nonempty]
  cases hlast : part.getLast? with
  | none => rfl
  | some c =>
    have hne : c ≠ slashByte := by
      rintro rfl
      exact hpart.unslashed (List.mem_of_getLast? hlast)
    simpa using hne

theorem isAbsolute_join (hpart : IsPart part) : (d.join ⟨part⟩).isAbsolute = d.isAbsolute := by
  have hrelative := isAbsolute_of_unslashed hpart.unslashed
  rw [join, if_neg (by simp [hrelative])]
  by_cases hempty : d.bytes = []
  · simpa [hempty, isAbsolute] using hrelative
  · obtain ⟨c, t, hc⟩ := List.exists_cons_of_ne_nil hempty
    split <;> simp [isAbsolute, hc]

/-! ## Components -/

/-- The component that a part stands for. -/
def partComponent (part : List UInt8) : Component :=
  if part = [dotByte, dotByte] then .parent else .normal part

theorem component?_of_isPart (hpart : IsPart part) :
    component? part = some (partComponent part) := by
  rw [component?, if_neg (by simp [hpart.nonempty, hpart.moving]), partComponent]
  split <;> rfl

theorem bytes_partComponent (part : List UInt8) : (partComponent part).bytes = part := by
  rw [partComponent]
  split
  · next h => exact h.symm
  · rfl

theorem partComponent_of_isName (hname : IsName name) : partComponent name = .normal name :=
  if_neg hname.downward

/-- A part that is joined to a path is one component more. -/
theorem components_join_part (hpart : IsPart part) :
    (d.join ⟨part⟩).components = d.components ++ [partComponent part] := by
  obtain ⟨init, hjoin, hd, hinit⟩ := split_join (d := d) hpart
  have hrest : (split d.bytes).filterMap component? = init.filterMap component? := by
    rcases hd with hd | hd <;> simp [hd, component?]
  have hhead : ((init ++ [part]).head? == some [dotByte]) = ((split d.bytes).head? == some [dotByte]) := by
    cases init with
    | nil =>
      have hne : part ≠ [dotByte] := hpart.moving
      simp [hinit rfl, split, hne]
    | cons head rest => rcases hd with hd | hd <;> simp [hd]
  simp only [components, hjoin, isAbsolute_join hpart, hhead, hrest, List.filterMap_append,
    List.filterMap_cons, component?_of_isPart hpart, List.filterMap_nil, List.append_assoc]

/-- **A name that is joined to a path is one component more.** -/
theorem components_join (hname : IsName name) :
    (d.join ⟨name⟩).components = d.components ++ [.normal name] := by
  rw [components_join_part hname.toIsPart, partComponent_of_isName hname]

theorem fileName?_join (hname : IsName name) : (d.join ⟨name⟩).fileName? = some name := by
  rw [fileName?, components_join hname]
  simp

theorem extension?_join (hname : IsName name) :
    (d.join ⟨name⟩).extension? = extensionOf? name := by
  rw [extension?, fileName?_join hname]
  rfl

theorem descend_concat (d : Path) (names : List Name) (name : Name) :
    d.descend (names ++ [name]) = (d.descend names).join ⟨name⟩ := by
  rw [descend, List.foldl_append]
  rfl

/-- Parts that follow a path are its last components. -/
theorem components_descend_parts {parts : List (List UInt8)} (hparts : ∀ part ∈ parts, IsPart part) :
    (d.descend parts).components = d.components ++ parts.map partComponent := by
  induction parts using List.reverseRecOn with
  | nil => simp [descend]
  | append_singleton parts part ih =>
    rw [List.forall_mem_append] at hparts
    have hpart : IsPart part := hparts.2 part List.mem_cons_self
    rw [descend_concat, components_join_part hpart, ih hparts.1, List.map_append, List.append_assoc]
    rfl

/-- **Names that follow a path are its last components.** -/
theorem components_descend {names : List Name} (hnames : ∀ name ∈ names, IsName name) :
    (d.descend names).components = d.components ++ names.map .normal := by
  rw [components_descend_parts fun name hname => (hnames name hname).toIsPart]
  exact congrArg _ (List.map_congr_left fun name hname => partComponent_of_isName (hnames name hname))

/-! ## Extensions -/

/-- The extension of a name is what stands behind its last point, if something stands before it. -/
theorem extensionOf?_eq_some {e : List UInt8} : extensionOf? name = some e ↔
    ∃ stem, stem ≠ [] ∧ name = stem ++ dotByte :: e ∧ dotByte ∉ e := by
  have hsplit := List.takeWhile_append_dropWhile (p := (· != dotByte)) (l := name.reverse)
  have htaken : dotByte ∉ name.reverse.takeWhile (· != dotByte) := fun hmem => by
    simpa using List.all_eq_true.mp List.all_takeWhile _ hmem
  rw [extensionOf?]
  constructor
  · intro h
    split at h
    · next point c rest hdrop =>
      have hpoint : point = dotByte := by
        have hne : name.reverse.dropWhile (· != dotByte) ≠ [] := by simp [hdrop]
        simpa [hdrop] using List.head_dropWhile_not (· != dotByte) hne
      obtain rfl := Option.some.inj h
      refine ⟨(c :: rest).reverse, by simp, ?_, by simpa using htaken⟩
      have hname := congrArg List.reverse hsplit
      rw [hdrop, hpoint] at hname
      simpa using hname.symm
    · simp at h
  · rintro ⟨stem, hstem, rfl, hpoint⟩
    obtain ⟨c, rest, hreverse⟩ := List.exists_cons_of_ne_nil
      (List.reverse_ne_nil_iff.mpr hstem)
    have hall : ∀ c ∈ e.reverse, (c != dotByte) = true := by
      intro c hc
      rw [bne_iff_ne]
      rintro rfl
      exact hpoint (List.mem_reverse.mp hc)
    have hname : (stem ++ dotByte :: e).reverse = e.reverse ++ dotByte :: c :: rest := by
      simp [hreverse]
    rw [hname, List.dropWhile_append_of_pos hall, List.takeWhile_append_of_pos hall]
    simp

/-! ## Joining the components -/

theorem unslashed_of_mem_split (bytes : List UInt8) (h : part ∈ split bytes) : slashByte ∉ part := by
  induction bytes generalizing part with
  | nil =>
    rw [split, List.mem_singleton] at h
    simp [h]
  | cons c t ih =>
    rw [split] at h
    by_cases hc : c = slashByte
    · rw [if_pos hc] at h
      rcases List.mem_cons.mp h with rfl | hrest
      · simp
      · exact ih hrest
    · rw [if_neg hc] at h
      cases ht : split t with
      | nil => exact absurd ht (split_ne_nil t)
      | cons head rest =>
        rw [ht] at h ih
        rcases List.mem_cons.mp h with rfl | hrest
        · rw [List.mem_cons, not_or]
          exact ⟨Ne.symm hc, ih List.mem_cons_self⟩
        · exact ih (List.mem_cons_of_mem _ hrest)

theorem exists_parts {stretches : List (List UInt8)} (h : ∀ part ∈ stretches, slashByte ∉ part) :
    ∃ parts : List (List UInt8), stretches.filterMap component? = parts.map partComponent
      ∧ ∀ part ∈ parts, IsPart part := by
  induction stretches with
  | nil => exact ⟨[], rfl, by simp⟩
  | cons part rest ih =>
    rw [List.forall_mem_cons] at h
    obtain ⟨parts, hrest, hall⟩ := ih h.2
    by_cases hdropped : part = [] ∨ part = [dotByte]
    · exact ⟨parts, by simp [component?, hdropped, hrest], hall⟩
    · rw [not_or] at hdropped
      have hpart : IsPart part := ⟨hdropped.1, h.1, hdropped.2⟩
      exact ⟨part :: parts, by simp [component?_of_isPart hpart, hrest],
        List.forall_mem_cons.mpr ⟨hpart, hall⟩⟩

/-- The components of a path: where it starts, and behind it only parts. -/
theorem components_eq (p : Path) : ∃ (front : List Component) (parts : List (List UInt8)),
    p.components = front ++ parts.map partComponent
    ∧ (p.isAbsolute = true ∧ front = [.root]
      ∨ p.isAbsolute = false ∧ (front = [] ∨ front = [.current]))
    ∧ ∀ part ∈ parts, IsPart part := by
  obtain ⟨parts, hrest, hall⟩ := exists_parts fun part => unslashed_of_mem_split p.bytes
  refine ⟨_, parts, by rw [components, hrest], ?_, hall⟩
  by_cases habsolute : p.isAbsolute = true
  · exact .inl ⟨habsolute, if_pos habsolute⟩
  · refine .inr ⟨by simpa using habsolute, ?_⟩
    rw [if_neg habsolute]
    split
    · exact .inr rfl
    · exact .inl rfl

theorem ofComponents_concat (cs : List Component) (c : Component) :
    ofComponents (cs ++ [c]) = (ofComponents cs).join ⟨c.bytes⟩ := by
  rw [ofComponents, List.foldl_append]
  rfl

/-- **Joining the components of a path gives a path of the same components.** -/
theorem components_ofComponents (p : Path) :
    (ofComponents p.components).components = p.components := by
  obtain ⟨front, parts, hp, hfront, hparts⟩ := components_eq p
  rw [hp]
  clear hp
  induction parts using List.reverseRecOn with
  | nil => rcases hfront with ⟨-, rfl⟩ | ⟨-, rfl | rfl⟩ <;> rfl
  | append_singleton parts part ih =>
    rw [List.forall_mem_append] at hparts
    rw [List.map_append, ← List.append_assoc, List.map_singleton, ofComponents_concat,
      bytes_partComponent, components_join_part (hparts.2 part List.mem_cons_self), ih hparts.1]

/-- Whether a path starts at the root is told by its components. -/
theorem isAbsolute_eq (p : Path) : p.isAbsolute = (p.components.head? == some .root) := by
  obtain ⟨front, parts, hp, hfront, -⟩ := components_eq p
  rw [hp]
  rcases hfront with ⟨habsolute, rfl⟩ | ⟨hrelative, rfl | rfl⟩
  · simp [habsolute]
  · cases parts with
    | nil => simp [hrelative]
    | cons part rest =>
      have hne : partComponent part ≠ .root := by
        rw [partComponent]
        split <;> simp
      simp [hrelative, hne]
  · simp [hrelative]

/-! ## Absolute paths -/

/-- Whatever follows an absolute path, the path stays absolute. -/
theorem isAbsolute_join_left {q : Path} (h : d.isAbsolute = true) :
    (d.join q).isAbsolute = true := by
  rw [join]
  split
  · next hq => exact hq
  · obtain ⟨c, t, hc⟩ : ∃ c t, d.bytes = c :: t := by
      cases hd : d.bytes with
      | nil => simp [isAbsolute, hd] at h
      | cons c t => exact ⟨c, t, rfl⟩
    rw [isAbsolute, hc] at h
    split <;> simpa [isAbsolute, hc] using h

theorem isAbsolute_foldl_join (cs : List Component) (h : d.isAbsolute = true) :
    (cs.foldl (fun q c => q.join ⟨c.bytes⟩) d).isAbsolute = true := by
  induction cs generalizing d with
  | nil => exact h
  | cons c cs ih => exact ih (isAbsolute_join_left h)

theorem isAbsolute_absoluteStart (p : Path) : p.absoluteStart.isAbsolute = true := by
  rw [absoluteStart]
  split <;> rfl

/-- **What a path is made is absolute**, if the working directory is. -/
theorem isAbsolute_of_absolute? {p workingDirectory q : Path}
    (hworking : workingDirectory.isAbsolute = true) (h : p.absolute? workingDirectory = some q) :
    q.isAbsolute = true := by
  rw [absolute?] at h
  split at h
  · simp at h
  · have hstart :
        (if p.isAbsolute then p.absoluteStart else workingDirectory).isAbsolute = true := by
      split
      · exact isAbsolute_absoluteStart p
      · exact hworking
    have hmoved := isAbsolute_foldl_join p.moves hstart
    obtain rfl := Option.some.inj h
    split
    · exact isAbsolute_join_left hmoved
    · exact hmoved

end Path

/-- The path of a place is absolute. -/
theorem Place.isAbsolute_path (place : Place) : place.path.isAbsolute = true :=
  Path.isAbsolute_foldl_join (place.map .normal) (d := ⟨[Path.slashByte]⟩) rfl

end SyntaxKit
