import SyntaxKit.Language.Harneet
import SyntaxKit.Parse.Run
import SyntaxKit.Proofs.Text.Index
import SyntaxKit.Proofs.Text.Utf8

/-!
# Reading a text from its chunks

A reader sees nothing of the way in which a text is cut.  `Text.Serves` says what it relies on: at
every offset it is given some of the bytes that stand there, up to the end of a character, and
nothing only at the end of the text; chunks do so (`Chunks.serves`).  From such answers a reader
makes out what is there at every offset, wherever it has been before (`Window.look_eq_seen`).  So
the tree depends only on the text that is served (`Language.parseServed_eq`), and a text in chunks
is parsed like the same text in one piece (`Language.parseChunks_eq`).
-/

namespace SyntaxKit

open Text (byteLength)

/-- At every offset some of the bytes of a text are given that stand there, up to the end of a
character, and nothing only at the end. -/
def Text.Serves (text : List Char) (read : Nat → List UInt8) : Prop :=
  ∀ offset, ∃ front, front <+: text ∧ read offset = (Utf8.encode front).drop offset
    ∧ (offset < byteLength text → offset < byteLength front)

/-! ## What is read from chunks -/

namespace Chunks

variable {chunks : Chunks}

/-- The chunk in which an offset lies begins where those before it end; it reaches beyond the offset
unless that is the end of the text. -/
theorem chunkAt_spec (h : chunks ≠ []) {offset : Nat} (hle : offset ≤ chunks.size) :
    ∃ front back, chunks = front ++ (chunks.chunkAt offset).1 :: back
      ∧ (chunks.chunkAt offset).2 = byteLength front.flatten
      ∧ byteLength front.flatten ≤ offset
      ∧ offset ≤ byteLength front.flatten + byteLength (chunks.chunkAt offset).1
      ∧ (offset < chunks.size →
        offset < byteLength front.flatten + byteLength (chunks.chunkAt offset).1) := by
  induction chunks, offset using chunkAt.induct with
  | case1 => exact absurd rfl h
  | case2 chunk offset =>
    have hsize : size [chunk] = byteLength chunk := by simp [size]
    rw [hsize] at hle
    refine ⟨[], [], rfl, rfl, Nat.zero_le _, ?_, fun hlt => ?_⟩
    · simpa [chunkAt] using hle
    · simpa [chunkAt, hsize] using hlt
  | case3 chunk next rest offset hlt =>
    rw [chunkAt, if_pos hlt]
    exact ⟨[], next :: rest, rfl, rfl, Nat.zero_le _, by simpa using Nat.le_of_lt hlt,
      fun _ => by simpa using hlt⟩
  | case4 chunk next rest offset hlt ih =>
    have hsize : size (chunk :: next :: rest) = byteLength chunk + size (next :: rest) := by
      simp [size]
    rw [hsize] at hle ⊢
    obtain ⟨front, back, hchunks, hstart, hbegins, hends, hbeyond⟩ := ih (by simp) (by omega)
    rw [chunkAt, if_neg hlt]
    refine ⟨chunk :: front, back, ?_, ?_, ?_, ?_, fun hoffset => ?_⟩
    · rw [List.cons_append, ← hchunks]
    · simp [hstart]
    · simp only [List.flatten_cons, Text.byteLength_append]
      omega
    · simp only [List.flatten_cons, Text.byteLength_append]
      omega
    · simp only [List.flatten_cons, Text.byteLength_append]
      have := hbeyond (by omega)
      omega

/-- What is given at an offset is the rest of the chunk in which it lies. -/
theorem readAt_spec (h : chunks ≠ []) (offset : Nat) :
    ∃ front chunk back, chunks = front ++ chunk :: back
      ∧ byteLength front.flatten ≤ min offset chunks.size
      ∧ min offset chunks.size ≤ byteLength front.flatten + byteLength chunk
      ∧ (offset < chunks.size → offset < byteLength front.flatten + byteLength chunk)
      ∧ chunks.readAt offset
        = (Utf8.encode chunk).drop (min offset chunks.size - byteLength front.flatten) := by
  obtain ⟨front, back, hchunks, hstart, hbegins, hends, hbeyond⟩ :=
    chunkAt_spec h (Nat.min_le_right offset chunks.size)
  refine ⟨front, _, back, hchunks, hbegins, hends, fun hlt => ?_, ?_⟩
  · rw [Nat.min_eq_left (Nat.le_of_lt hlt)] at hbeyond ⊢
    exact hbeyond hlt
  · rw [readAt, hstart]

/-- **Chunks serve the text that they make up.** -/
theorem serves (h : chunks ≠ []) : Text.Serves chunks.flatten chunks.readAt := by
  intro offset
  obtain ⟨front, chunk, back, hchunks, hbegins, hends, hbeyond, hread⟩ := readAt_spec h offset
  have hflatten : chunks.flatten = front.flatten ++ chunk ++ back.flatten := by
    rw [hchunks]
    simp
  have hsize : chunks.size
      = byteLength front.flatten + byteLength chunk + byteLength back.flatten := by
    rw [size, hflatten, Text.byteLength_append, Text.byteLength_append]
  refine ⟨front.flatten ++ chunk, ⟨back.flatten, hflatten.symm⟩, ?_, fun hlt => ?_⟩
  · rw [hread, Utf8.encode_append]
    rcases Nat.le_total offset chunks.size with hle | hle
    · rw [Nat.min_eq_left hle] at hbegins ⊢
      have hfront : (Utf8.encode front.flatten).drop offset = [] :=
        List.drop_eq_nil_of_le (by rw [Utf8.length_encode]; exact hbegins)
      rw [List.drop_append, Utf8.length_encode, hfront, List.nil_append]
    · -- behind the text there is nothing, and nothing is left of its last chunk
      rw [Nat.min_eq_right hle] at hends ⊢
      rw [List.drop_eq_nil_of_le, List.drop_eq_nil_of_le]
      · rw [List.length_append, Utf8.length_encode, Utf8.length_encode]
        omega
      · rw [Utf8.length_encode]
        omega
  · rw [Text.byteLength_append]
    exact hbeyond hlt

end Chunks

/-! ## What a reader sees -/

namespace Window

variable {text : List Char} {read : Nat → List UInt8} {w : Window}

/-- A window shows bytes of a text where they stand, up to the end of a character. -/
def Shows (text : List Char) (w : Window) : Prop :=
  ∃ front, front <+: text ∧ w.bytes = (Utf8.encode front).drop w.start

theorem shows_empty (text : List Char) : empty.Shows text := ⟨[], List.nil_prefix, rfl⟩

theorem shows_ask (hread : Text.Serves text read) (offset : Nat) : (ask read offset).Shows text := by
  obtain ⟨front, hfront, hbytes, -⟩ := hread offset
  exact ⟨front, hfront, hbytes⟩

theorem shows_moveTo (hread : Text.Serves text read) (hw : w.Shows text) (offset : Nat) :
    (w.moveTo read offset).Shows text := by
  rw [moveTo]
  split
  · exact hw
  · exact shows_ask hread offset

/-- A reader that looks somewhere has a window on the text afterwards. -/
theorem shows_look (hread : Text.Serves text read) (hw : w.Shows text) (offset : Nat) :
    (w.look read offset).2.Shows text := by
  rw [look]
  split
  · exact shows_ask hread offset
  · exact shows_moveTo hread hw offset

/-- The window of a reader that has looked at some offsets, one after the other. -/
def after (read : Nat → List UInt8) (visited : List Nat) : Window :=
  visited.foldl (fun w offset => (w.look read offset).2) empty

theorem shows_after (hread : Text.Serves text read) (visited : List Nat) :
    (after read visited).Shows text := by
  induction visited using List.reverseRecOn with
  | nil => exact shows_empty text
  | append_singleton visited offset ih =>
    rw [after, List.foldl_append]
    exact shows_look hread ih offset

/-- What a window shows from an offset on that it has been moved to is part of the text, and reaches
beyond the offset unless the text ends there. -/
theorem exists_behind_moveTo (hread : Text.Serves text read) (hw : w.Shows text) (offset : Nat) :
    ∃ shown, shown <+: text ∧ (offset < byteLength text → offset < byteLength shown)
      ∧ (w.moveTo read offset).behind offset = (Utf8.encode shown).drop offset := by
  rw [moveTo]
  split
  · next hholds =>
    obtain ⟨shown, hbegins, hbytes⟩ := hw
    simp only [holds, Bool.and_eq_true, decide_eq_true_eq, hbytes, List.length_drop,
      Utf8.length_encode] at hholds
    refine ⟨shown, hbegins, fun _ => by omega, ?_⟩
    rw [behind, hbytes, List.drop_drop, Nat.add_sub_cancel' hholds.1]
  · obtain ⟨shown, hbegins, hbytes, hmore⟩ := hread offset
    refine ⟨shown, hbegins, hmore, ?_⟩
    rw [behind, ask, Nat.sub_self, List.drop_zero, hbytes]

/-- A window that has been moved behind a prefix of the text shows what stands there, and shows
something unless the text ends there. -/
theorem behind_moveTo {front back : List Char} (hread : Text.Serves (front ++ back) read)
    (hw : w.Shows (front ++ back)) :
    ∃ mid, mid <+: back ∧ (back ≠ [] → mid ≠ [])
      ∧ (w.moveTo read (byteLength front)).behind (byteLength front) = Utf8.encode mid := by
  obtain ⟨shown, ⟨rest, hrest⟩, hmore, hbehind⟩ :=
    exists_behind_moveTo hread hw (byteLength front)
  have hlt (hback : back ≠ []) : byteLength front < byteLength shown := by
    have hpos : byteLength back ≠ 0 := fun hzero => hback (Text.byteLength_eq_zero.mp hzero)
    exact hmore (by rw [Text.byteLength_append]; omega)
  rw [hbehind]
  rcases Nat.le_total (byteLength front) (byteLength shown) with hle | hle
  · obtain ⟨mid, rfl⟩ := Text.exists_append_of_byteLength_le hrest hle
    refine ⟨mid, ⟨rest, ?_⟩, fun hback hnil => ?_, ?_⟩
    · rw [List.append_assoc] at hrest
      exact List.append_cancel_left hrest
    · have := hlt hback
      simp [hnil] at this
    · rw [Utf8.encode_append, ← Utf8.length_encode, List.drop_left]
  · refine ⟨[], List.nil_prefix, fun hback => ?_, ?_⟩
    · have := hlt hback
      omega
    · exact List.drop_eq_nil_of_le (by simpa using hle)

/-- A reader sees the character that stands behind a prefix of the text. -/
theorem look_eq {front back : List Char} (hread : Text.Serves (front ++ back) read)
    (hw : w.Shows (front ++ back)) :
    (w.look read (byteLength front)).1 = back.head?.map some := by
  obtain ⟨mid, ⟨rest, hrest⟩, hmore, hbehind⟩ := behind_moveTo hread hw
  have hfirst : Utf8.first? (Utf8.encode mid) = back.head?.map some := by
    rw [Utf8.first?_encode, ← hrest]
    cases mid with
    | nil =>
      have hback : back = [] := by_contra fun hback => hmore hback rfl
      rw [hback, List.append_eq_nil_iff] at hrest
      rw [hrest.2]
      rfl
    | cons c mid => rfl
  have hwhole : ¬(Utf8.first? (Utf8.encode mid) = some none
      ∧ (Utf8.encode mid).length < 4) := by
    rw [hfirst]
    cases back <;> simp
  rw [look]
  simp only [hbehind, if_neg hwhole]
  exact hfirst

/-- Within a character a reader sees none. -/
theorem look_within {front back : List Char} {c : Char} {i : Nat} (hpos : 0 < i)
    (hlt : i < c.utf8Size) (hread : Text.Serves (front ++ c :: back) read)
    (hw : w.Shows (front ++ c :: back)) :
    (w.look read (byteLength front + i)).1 = some none := by
  have hoffset : byteLength front + i < byteLength (front ++ c :: back) := by
    rw [Text.byteLength_append, byteLength]
    omega
  -- whatever the reader is given there begins within the character
  have hnone {shown : List Char} (hbegins : shown <+: front ++ c :: back)
      (hmore : byteLength front + i < byteLength shown) :
      Utf8.first? ((Utf8.encode shown).drop (byteLength front + i)) = some none := by
    obtain ⟨rest, hrest⟩ := hbegins
    obtain ⟨mid, rfl⟩ := Text.exists_append_of_byteLength_le hrest (by omega)
    cases mid with
    | nil =>
      rw [List.append_nil] at hmore
      omega
    | cons d mid =>
      obtain ⟨rfl, -⟩ : d = c ∧ mid ++ rest = back := by simpa using hrest
      have hencode : Utf8.encode (d :: mid) = String.utf8EncodeChar d ++ Utf8.encode mid := rfl
      have hle : i ≤ (String.utf8EncodeChar d).length := by
        rw [String.length_utf8EncodeChar]
        omega
      rw [Utf8.encode_append, ← Utf8.length_encode, List.drop_length_add_append, hencode,
        List.drop_append_of_le_length hle]
      exact Utf8.first?_within hpos hlt _
  obtain ⟨shown, hbegins, hmore, hbehind⟩ := exists_behind_moveTo hread hw (byteLength front + i)
  rw [look]
  simp only [hbehind]
  split
  · obtain ⟨shown', hbegins', hbytes, hmore'⟩ := hread (byteLength front + i)
    rw [hbytes]
    exact hnone hbegins' (hmore' hoffset)
  · exact hnone hbegins (hmore hoffset)

/-- **A reader sees at every offset what is there**, whatever has been looked at before. -/
theorem look_eq_seen (hread : Text.Serves text read) (hw : w.Shows text) (offset : Nat) :
    (w.look read offset).1 = (Text.seen text)[offset]? := by
  rcases Nat.lt_or_ge offset (byteLength text) with hlt | hge
  · obtain ⟨front, c, back, i, rfl, rfl, hi⟩ := Text.exists_char_at hlt
    have hseen : (Text.seen (front ++ c :: back))[byteLength front + i]?
        = (Text.seen (c :: back))[i]? := by
      rw [Text.seen_append, ← Text.length_seen, List.getElem?_append_right (Nat.le_add_right ..),
        Nat.add_sub_cancel_left]
    rw [hseen, Text.seen_cons]
    cases i with
    | zero => exact look_eq hread hw
    | succ i =>
      rw [look_within (Nat.succ_pos i) hi hread hw, List.getElem?_cons_succ,
        List.getElem?_append_left (by rw [List.length_replicate]; omega), List.getElem?_replicate,
        if_pos (by omega)]
  · obtain ⟨shown, ⟨rest, hrest⟩, -, hbehind⟩ := exists_behind_moveTo hread hw offset
    have hle : byteLength shown ≤ offset := by
      rw [← hrest, Text.byteLength_append] at hge
      omega
    rw [List.drop_eq_nil_of_le (by rwa [Utf8.length_encode])] at hbehind
    rw [List.getElem?_eq_none (by rwa [Text.length_seen]), look]
    simp [hbehind, Utf8.first?, Utf8.pieces]

/-- A reader that goes over a text sees what is there at each offset. -/
theorem looks_eq (hread : Text.Serves text read) (hw : w.Shows text) (left offset : Nat) :
    w.looks read left offset = ((Text.seen text).drop offset).take left := by
  induction left generalizing w offset with
  | zero => rfl
  | succ left ih =>
    have hseen := look_eq_seen hread hw offset
    have hshows := shows_look hread hw offset
    rw [looks]
    generalize w.look read offset = looked at hseen hshows
    obtain ⟨_ | seen, w'⟩ := looked
    · rw [List.drop_eq_nil_of_le (List.getElem?_eq_none_iff.mp hseen.symm), List.take_nil]
    · obtain ⟨hlt, hat⟩ := List.getElem?_eq_some_iff.mp hseen.symm
      rw [List.drop_eq_getElem_cons hlt, List.take_succ_cons, hat]
      simp only [ih hshows]

/-- **Reading on from behind a prefix gives the rest of the text**, whatever has been looked at
before. -/
theorem readOn_eq {front back : List Char} (hread : Text.Serves (front ++ back) read)
    (hw : w.Shows (front ++ back)) (left : Nat) :
    w.readOn read left (byteLength front) = back.take left := by
  induction left generalizing w front back with
  | zero => rfl
  | succ left ih =>
    have hseen := look_eq hread hw
    have hshows := shows_look hread hw (byteLength front)
    rw [readOn]
    generalize w.look read (byteLength front) = looked at hseen hshows
    cases back with
    | nil =>
      obtain ⟨seen, w'⟩ := looked
      obtain rfl : seen = none := hseen
      rfl
    | cons c back =>
      obtain ⟨seen, w'⟩ := looked
      obtain rfl : seen = some (some c) := hseen
      have hsplit : front ++ c :: back = (front ++ [c]) ++ back := by simp
      have hnext : byteLength front + c.utf8Size = byteLength (front ++ [c]) := by
        simp [byteLength]
      rw [hsplit] at hread hshows
      simp only [hnext, List.take_succ_cons]
      rw [ih hread hshows]

end Window

/-! ## Parsing a text in chunks -/

/-- What can be read of a text that is served is the text. -/
theorem Source.ofReader_eq {text : List Char} {read : Nat → List UInt8}
    (hread : Text.Serves text read) {size : Nat} (hsize : byteLength text ≤ size) :
    ofReader read size = ofText text := by
  rw [ofReader, ofText, Window.looks_eq hread (Window.shows_empty _), List.drop_zero,
    List.take_of_length_le (by rwa [Text.length_seen])]

/-- **The tree depends only on the text that is served**, not on the pieces in which it is given. -/
theorem Language.parseServed_eq (lang : Language) (old : Option Tree) {text : List Char}
    {read : Nat → List UInt8} (hread : Text.Serves text read) {size : Nat}
    (hsize : byteLength text ≤ size) : lang.parseServed old read size = lang.parseWith old text := by
  rw [parseServed, parseWith, Source.ofReader_eq hread hsize]

/-- A text that is cut is divided into at least one chunk. -/
theorem Chunks.flatten_cut (size : Nat) (text : List Char) :
    (cut size text).flatten = text ∧ cut size text ≠ [] := by
  have hcut : ∀ room chunk, (cutFrom size text room chunk).flatten = chunk.reverse ++ text
      ∧ cutFrom size text room chunk ≠ [] := by
    induction text with
    | nil => exact fun room chunk => by simp [cutFrom]
    | cons c text ih =>
      intro room chunk
      cases room with
      | zero => simp [cutFrom, (ih size [c]).1]
      | succ room => simpa [cutFrom] using ih room (c :: chunk)
  simpa [cut] using hcut (size + 1) []

/-- **A text in chunks is read and parsed like the text in one piece.**  At every offset the rest of
the chunk is given in which the offset lies, which is nothing only at the end of the text and is
always what stands there; wherever a reader has looked before, between two characters it reads on as
the lexer does in the text in one piece; and the trees are the same. -/
theorem Language.parseChunks_eq (lang : Language) {text : List Char} {chunks : Chunks}
    (hne : chunks ≠ []) (htext : chunks.flatten = text) :
    (∀ offset, ∃ front chunk back, chunks = front ++ chunk :: back
        ∧ byteLength front.flatten ≤ min offset (byteLength text)
        ∧ min offset (byteLength text) ≤ byteLength front.flatten + byteLength chunk
        ∧ chunks.readAt offset = (Utf8.encode chunk).drop
            (min offset (byteLength text) - byteLength front.flatten))
      ∧ (∀ offset, chunks.readAt offset = [] → byteLength text ≤ offset)
      ∧ (∀ offset, chunks.readAt offset <+: (Utf8.encode text).drop offset)
      ∧ (∀ visited front back left, text = front ++ back →
        (Window.after chunks.readAt visited).readOn chunks.readAt left (byteLength front)
          = ((Source.ofText text).suffixAt (byteLength front)).take left)
      ∧ lang.parseChunks chunks = lang.parse text := by
  subst htext
  have hserves := Chunks.serves hne
  refine ⟨fun offset => ?_, fun offset hnil => ?_, fun offset => ?_, ?_, ?_⟩
  · obtain ⟨front, chunk, back, hchunks, hbegins, hends, -, hread⟩ :=
      Chunks.readAt_spec hne offset
    exact ⟨front, chunk, back, hchunks, hbegins, hends, hread⟩
  · obtain ⟨front, -, hread, hmore⟩ := hserves offset
    by_contra hlt
    have hshort := hmore (Nat.lt_of_not_le hlt)
    rw [hread, List.drop_eq_nil_iff, Utf8.length_encode] at hnil
    omega
  · obtain ⟨front, ⟨back, hback⟩, hread, -⟩ := hserves offset
    rw [hread, ← hback, Utf8.encode_append, List.drop_append]
    exact List.prefix_append _ _
  · intro visited front back left hsplit
    rw [hsplit] at hserves ⊢
    rw [Source.suffixAt_ofText]
    exact Window.readOn_eq hserves (Window.shows_after hserves visited) left
  · exact lang.parseServed_eq none hserves (Nat.le_refl _)

/-- A text of three characters of which the second has two bytes, cut before and behind it. -/
theorem Language.parseChunks_letters : ∃ chunks : Chunks, chunks ≠ []
    ∧ chunks.flatten = ['a', 'é', '1'] ∧ chunks.readAt 1 = [0xC3, 0xA9] ∧ chunks.readAt 2 = [0xA9]
    ∧ chunks.readAt 9 = []
    ∧ Harneet.language.parseChunks chunks = Harneet.language.parse ['a', 'é', '1'] := by
  refine ⟨[['a'], ['é'], ['1']], by decide, by decide, by decide, by decide, by decide, ?_⟩
  exact (parseChunks_eq Harneet.language (by decide) (by decide)).2.2.2.2

end SyntaxKit
