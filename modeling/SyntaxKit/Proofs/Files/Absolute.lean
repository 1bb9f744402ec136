import SyntaxKit.Proofs.Files.Paths

/-!
# Making paths absolute

An absolute path has a normal form: a start of one slash or two, then parts with one slash between
them, and maybe a slash at the end (`Path.compose`).  Making a path absolute leads to such a path if
the working directory is one (`Path.isNormal_of_absolute?`), and leaves such a path as it is
(`Path.IsNormal.absolute?_eq`), whatever the working directory.
-/

namespace SyntaxKit

namespace Path

variable {p q d start : Path} {part : List UInt8} {parts : List (List UInt8)} {slash : Bool}

/-! ## Joining with slashes -/

theorem descend_append (d : Path) (parts more : List (List UInt8)) :
    (d.descend parts).descend more = d.descend (parts ++ more) := by
  rw [descend, descend, descend, List.foldl_append]

/-- A path that ends with a slash is not changed by one more. -/
theorem join_nil_of_endsWithSlash (h : d.endsWithSlash = true) : d.join ⟨[]⟩ = d := by
  rw [join, if_neg (by simp [isAbsolute]), if_pos (by simp [h]), List.append_nil]

theorem bytes_join_nil (hne : d.bytes ≠ []) (h : ¬d.endsWithSlash = true) :
    (d.join ⟨[]⟩).bytes = d.bytes ++ [slashByte] := by
  rw [join, if_neg (by simp [isAbsolute]), if_neg (by simp [hne, h])]

theorem endsWithSlash_join_nil (hne : d.bytes ≠ []) : (d.join ⟨[]⟩).endsWithSlash = true := by
  by_cases h : d.endsWithSlash = true
  · rw [join_nil_of_endsWithSlash h, h]
  · rw [endsWithSlash, bytes_join_nil hne h]
    simp

/-- A slash at the end is no component. -/
theorem components_join_nil (hne : d.bytes ≠ []) : (d.join ⟨[]⟩).components = d.components := by
  by_cases h : d.endsWithSlash = true
  · rw [join_nil_of_endsWithSlash h]
  · have hbytes := bytes_join_nil hne h
    have hsplit : split (d.join ⟨[]⟩).bytes = split d.bytes ++ [[]] := by
      rw [hbytes, split_append_slash]
      rfl
    have habsolute : (d.join ⟨[]⟩).isAbsolute = d.isAbsolute := by
      obtain ⟨c, t, hc⟩ := List.exists_cons_of_ne_nil hne
      simp [isAbsolute, hbytes, hc]
    have hhead : (split d.bytes ++ [[]]).head? = (split d.bytes).head? :=
      List.head?_append_of_ne_nil _ (split_ne_nil d.bytes)
    simp only [components, hsplit, habsolute, hhead, List.filterMap_append]
    simp [component?]

/-! ## Starts -/

/-- Where an absolute path starts: at the root, or at what two slashes stand for. -/
def IsStart (start : Path) : Prop := start = ⟨[slashByte]⟩ ∨ start = ⟨[slashByte, slashByte]⟩

theorem IsStart.endsWithSlash (h : IsStart start) : start.endsWithSlash = true := by
  rcases h with rfl | rfl <;> rfl

theorem IsStart.components (h : IsStart start) : start.components = [.root] := by
  rcases h with rfl | rfl <;> rfl

theorem isStart_absoluteStart (p : Path) : IsStart p.absoluteStart := by
  rw [absoluteStart]
  split
  · exact .inr rfl
  · exact .inl rfl

/-- A path begins with a start, and no further slash follows there. -/
def BeginsWith (start q : Path) : Prop :=
  ∃ tail, q.bytes = start.bytes ++ tail ∧ tail.head? ≠ some slashByte

theorem BeginsWith.refl (start : Path) : BeginsWith start start :=
  ⟨[], by simp, by simp⟩

/-- What is joined to a path does not change how it begins. -/
theorem BeginsWith.join (hstart : IsStart start) (h : BeginsWith start d)
    (hpart : isAbsolute ⟨part⟩ = false) : BeginsWith start (d.join ⟨part⟩) := by
  obtain ⟨tail, hbytes, htail⟩ := h
  cases tail with
  | nil =>
    have hslash : d.endsWithSlash = true := by
      rw [Path.endsWithSlash, hbytes, List.append_nil]
      exact hstart.endsWithSlash
    refine ⟨part, ?_, by simpa [isAbsolute] using hpart⟩
    rw [Path.join, if_neg (by simp [hpart]), if_pos (by simp [hslash]), hbytes, List.append_nil]
  | cons c t =>
    obtain ⟨more, hmore⟩ : ∃ more, (d.join ⟨part⟩).bytes = d.bytes ++ more := by
      rw [Path.join, if_neg (by simp [hpart])]
      split
      · exact ⟨part, rfl⟩
      · exact ⟨slashByte :: part, rfl⟩
    exact ⟨c :: t ++ more, by rw [hmore, hbytes, List.append_assoc], by simpa using htail⟩

theorem BeginsWith.descend (hstart : IsStart start) (h : BeginsWith start d)
    (hparts : ∀ part ∈ parts, IsPart part) : BeginsWith start (d.descend parts) := by
  induction parts generalizing d with
  | nil => exact h
  | cons part parts ih =>
    rw [List.forall_mem_cons] at hparts
    exact ih (h.join hstart (isAbsolute_of_unslashed hparts.1.unslashed)) hparts.2

theorem BeginsWith.bytes_ne_nil (hstart : IsStart start) (h : BeginsWith start q) : q.bytes ≠ [] := by
  obtain ⟨tail, hbytes, -⟩ := h
  rcases hstart with rfl | rfl <;> simp [hbytes]

/-- The start of a path is what it begins with. -/
theorem BeginsWith.absoluteStart_eq (hstart : IsStart start) (h : BeginsWith start q) :
    q.absoluteStart = start := by
  obtain ⟨tail, hbytes, htail⟩ := h
  rw [absoluteStart, hbytes]
  cases tail with
  | nil => rcases hstart with rfl | rfl <;> rfl
  | cons c t =>
    have hc : c ≠ slashByte := by simpa using htail
    rcases hstart with rfl | rfl <;> simp [hc]

/-! ## Normal forms -/

/-- A start, some parts that follow it, and maybe a slash at the end. -/
def compose (start : Path) (parts : List (List UInt8)) (slash : Bool) : Path :=
  if slash then (start.descend parts).join ⟨[]⟩ else start.descend parts

/-- An absolute path without `.` and without repeated slashes, apart from two at its start. -/
def IsNormal (q : Path) : Prop :=
  ∃ start parts slash, IsStart start ∧ (∀ part ∈ parts, IsPart part)
    ∧ q = compose start parts slash

theorem moves_of_components {front : List Component}
    (h : p.components = front ++ parts.map partComponent)
    (hfront : front = [.root] ∨ front = [] ∨ front = [.current]) :
    p.moves = parts.map partComponent := by
  rw [moves, h]
  rcases hfront with rfl | rfl | rfl
  · rfl
  · cases parts with
    | nil => rfl
    | cons part rest =>
      rw [List.nil_append, List.map_cons, partComponent]
      by_cases hparent : part = [dotByte, dotByte] <;> simp [hparent]
  · rfl

/-- A path is composed of what it moves through, from its own start or the working directory. -/
theorem absolute?_of_moves (hne : p.bytes ≠ []) (hmoves : p.moves = parts.map partComponent)
    (w : Path) :
    p.absolute? w
      = some (compose (if p.isAbsolute then p.absoluteStart else w) parts p.endsWithSlash) := by
  have hdescend : ∀ d : Path,
      p.moves.foldl (fun q c => q.join ⟨c.bytes⟩) d = d.descend parts := by
    intro d
    simp only [hmoves, List.foldl_map, bytes_partComponent]
    rfl
  rw [absolute?, if_neg hne, compose]
  dsimp only
  rw [hdescend]

theorem beginsWith_compose (hstart : IsStart start) (hparts : ∀ part ∈ parts, IsPart part) :
    BeginsWith start (compose start parts slash) := by
  have hdescend := (BeginsWith.refl start).descend hstart hparts
  rw [compose]
  split
  · exact hdescend.join hstart rfl
  · exact hdescend

theorem components_compose (hstart : IsStart start) (hparts : ∀ part ∈ parts, IsPart part) :
    (compose start parts slash).components = .root :: parts.map partComponent := by
  have hne := ((BeginsWith.refl start).descend hstart hparts).bytes_ne_nil hstart
  have hdescend : (start.descend parts).components = .root :: parts.map partComponent := by
    rw [components_descend_parts hparts, hstart.components, List.singleton_append]
  rw [compose]
  split
  · rw [components_join_nil hne, hdescend]
  · exact hdescend

/-- A path is composed with a slash at the end just if it ends with one. -/
theorem compose_endsWithSlash (hstart : IsStart start) (hparts : ∀ part ∈ parts, IsPart part) :
    compose start parts (compose start parts slash).endsWithSlash = compose start parts slash := by
  have hne := ((BeginsWith.refl start).descend hstart hparts).bytes_ne_nil hstart
  cases slash with
  | true =>
    have hslash : (compose start parts true).endsWithSlash = true := endsWithSlash_join_nil hne
    rw [hslash]
  | false =>
    by_cases hslash : (start.descend parts).endsWithSlash = true
    · calc compose start parts (start.descend parts).endsWithSlash
          = (start.descend parts).join ⟨[]⟩ := by rw [hslash]; rfl
        _ = start.descend parts := join_nil_of_endsWithSlash hslash
    · have hunslashed : (compose start parts false).endsWithSlash = false :=
        Bool.eq_false_iff.mpr hslash
      rw [hunslashed]

theorem IsNormal.isAbsolute (h : IsNormal q) : q.isAbsolute = true := by
  obtain ⟨start, parts, slash, hstart, hparts, rfl⟩ := h
  rw [isAbsolute_eq, components_compose hstart hparts]
  rfl

/-- **A path in normal form is absolute already**, in every working directory. -/
theorem IsNormal.absolute?_eq (h : IsNormal q) (w : Path) : q.absolute? w = some q := by
  have habsolute := h.isAbsolute
  obtain ⟨start, parts, slash, hstart, hparts, rfl⟩ := h
  have hbegins : BeginsWith start (compose start parts slash) := beginsWith_compose hstart hparts
  have hmoves : (compose start parts slash).moves = parts.map partComponent :=
    moves_of_components (components_compose hstart hparts) (.inl rfl)
  rw [absolute?_of_moves (hbegins.bytes_ne_nil hstart) hmoves, if_pos habsolute,
    hbegins.absoluteStart_eq hstart, compose_endsWithSlash hstart hparts]

/-- **Making a path absolute leads to a normal form**, if the working directory is a start with
parts behind it. -/
theorem isNormal_of_absolute? {names : List (List UInt8)} (hstart : IsStart start)
    (hnames : ∀ name ∈ names, IsPart name) (h : p.absolute? (start.descend names) = some q) :
    IsNormal q := by
  obtain ⟨front, parts, hcomponents, hfront, hparts⟩ := components_eq p
  have hmoves : p.moves = parts.map partComponent := by
    refine moves_of_components hcomponents ?_
    rcases hfront with ⟨-, rfl⟩ | ⟨-, rfl | rfl⟩ <;> simp
  have hne : p.bytes ≠ [] := by
    intro hempty
    simp [absolute?, hempty] at h
  rw [absolute?_of_moves hne hmoves] at h
  obtain rfl := Option.some.inj h
  by_cases habsolute : p.isAbsolute = true
  · rw [if_pos habsolute]
    exact ⟨_, parts, _, isStart_absoluteStart p, hparts, rfl⟩
  · rw [if_neg habsolute]
    refine ⟨start, names ++ parts, p.endsWithSlash, hstart,
      List.forall_mem_append.mpr ⟨hnames, hparts⟩, ?_⟩
    rw [compose, descend_append, compose]

/-- Only the empty path cannot be made absolute. -/
theorem absolute?_eq_none_iff {w : Path} : p.absolute? w = none ↔ p.bytes = [] := by
  rw [absolute?]
  split <;> simp_all

/-- In an absolute path there is no home directory to be put in. -/
theorem expandHome_of_isAbsolute (h : q.isAbsolute = true) (home : Option Path) :
    q.expandHome home = q := by
  obtain ⟨front, parts, hcomponents, hfront, -⟩ := components_eq q
  obtain ⟨-, rfl⟩ | ⟨hrelative, -⟩ := hfront
  · unfold expandHome
    rw [hcomponents]
    cases home <;> rfl
  · rw [h] at hrelative
    simp at hrelative

end Path

/-- The path of a place leads from the root through its names. -/
theorem Place.path_eq (place : Place) : place.path = (⟨[Path.slashByte]⟩ : Path).descend place := by
  rw [Place.path, Path.ofComponents, List.foldl_cons, List.foldl_map]
  rfl

end SyntaxKit
