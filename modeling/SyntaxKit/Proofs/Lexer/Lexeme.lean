import Mathlib.Data.List.Induction
import SyntaxKit.Proofs.Language.Lossless
import SyntaxKit.Proofs.Text.Extent
import SyntaxKit.Lexer.Token

/-!
# Where the text of a token stands

The text of a token is one that the lexical automaton reads from outside of tokens to a state in
which the token is recognised, or a keyword that it reads as an identifier (`Lexer.Lexeme`).  Reading
a token at a position of a text passes over blank space, and at the start of the text over a
byte-order mark; the text of the token follows directly (`Lexer.placed_next`).  So the text is cut
into blank space and the texts of tokens, and nothing of it is left out.
-/

namespace SyntaxKit

namespace Lexer

variable {lang : Language}

/-! ## Spelling -/

/-- The state that the automaton comes to over some characters, none of which it passes over. -/
def follow (lang : Language) : Nat → List Char → Option Nat
  | i, [] => some i
  | i, c :: rest =>
    match (lang.lexRow i).edges.find? (·.admits c) with
    | some e => if e.skips then none else follow lang e.target rest
    | none => none

/-- The automaton reads the text, from outside of tokens, as the token. -/
def Spells (lang : Language) (symbol : Symbol) (body : List Char) : Prop :=
  ∃ i j, (lang.lexRow i).isOutside = true ∧ follow lang i body = some j
    ∧ (lang.lexRow j).accepts = some symbol

/-- The text is one of the token: it is read as the token, or it is a keyword. -/
def Lexeme (lang : Language) (symbol : Symbol) (body : List Char) : Prop :=
  Spells lang symbol body ∨ (body, symbol) ∈ lang.keywords ∧ Spells lang lang.wordToken body

theorem follow_append (i : Nat) (s t : List Char) :
    follow lang i (s ++ t) = (follow lang i s).bind fun j => follow lang j t := by
  induction s generalizing i with
  | nil => rfl
  | cons c s ih =>
    rw [List.cons_append, follow, follow]
    split
    · split
      · rfl
      · exact ih _
    · rfl

theorem follow_one {i : Nat} {c : Char} {e : LexEdge}
    (hfind : (lang.lexRow i).edges.find? (·.admits c) = some e) (hskips : e.skips = false) :
    follow lang i [c] = some e.target := by
  simp [follow, hfind, hskips]

/-- The last edge on the way over some characters. -/
theorem follow_concat {i j : Nat} {s : List Char} {c : Char}
    (h : follow lang i (s ++ [c]) = some j) :
    ∃ k, follow lang i s = some k ∧ ∃ e ∈ (lang.lexRow k).edges, e.admits c = true
      ∧ e.skips = false ∧ e.target = j := by
  rw [follow_append] at h
  obtain ⟨k, hk, hlast⟩ := Option.bind_eq_some_iff.mp h
  refine ⟨k, hk, ?_⟩
  rw [follow] at hlast
  split at hlast
  · next e hfind =>
    split at hlast
    · simp at hlast
    · next hskips =>
      have hadmits : e.admits c = true := by simpa using List.find?_some hfind
      simp only [follow, Option.some.injEq] at hlast
      exact ⟨e, List.mem_of_find?_eq_some hfind, hadmits, by simpa using hskips, hlast⟩
  · simp at hlast

/-- What is read as a token that does not show is blank space. -/
theorem isSpace_of_follow (hlang : lang.Lossless) {i : Nat} (body : List Char) :
    ∀ {j}, follow lang i body = some j → lang.recognisesHidden (lang.lexRow j) = true →
      ∀ c ∈ body, Text.isSpace c = true := by
  induction body using List.reverseRecOn with
  | nil => simp
  | append_singleton s c ih =>
    intro j hfollow hhidden d hd
    obtain ⟨k, hk, e, he, hadmits, -, rfl⟩ := follow_concat hfollow
    obtain ⟨hspace, hfrom⟩ := hlang.hidden k e he hhidden
    rcases List.mem_append.mp hd with hd | hd
    · rcases hfrom with houtside | hhidden'
      · -- from outside of tokens only the first character leads inside
        cases s using List.reverseRecOn with
        | nil => simp at hd
        | append_singleton s' c' =>
          obtain ⟨l, -, e', he', -, hskips, rfl⟩ := follow_concat hk
          rw [(hlang.enters l e' he' hskips).1] at houtside
          exact absurd houtside (by simp)
      · exact ih hk hhidden' d hd
    · rw [List.mem_singleton] at hd
      exact hd ▸ LexEdge.isSpace_of_admits hspace hadmits

theorem Spells.isSpace (hlang : lang.Lossless) {symbol : Symbol} {body : List Char}
    (h : Spells lang symbol body) (hvisible : lang.isVisible symbol = false) :
    ∀ c ∈ body, Text.isSpace c = true := by
  obtain ⟨i, j, -, hfollow, haccepts⟩ := h
  refine isSpace_of_follow hlang body hfollow ?_
  rw [Language.recognisesHidden, haccepts]
  simpa using hvisible

/-- **The text of a token that does not show is blank space.** -/
theorem Lexeme.isSpace (hlang : lang.Lossless) {symbol : Symbol} {body : List Char}
    (h : Lexeme lang symbol body) (hvisible : lang.isVisible symbol = false) :
    ∀ c ∈ body, Text.isSpace c = true := by
  rcases h with h | ⟨hkeyword, -⟩
  · exact h.isSpace hlang hvisible
  · rw [(hlang.keywords _ hkeyword).2] at hvisible
    exact absurd hvisible (by simp)

theorem Spells.ne_endOfText (hlang : lang.Lossless) {symbol : Symbol} {body : List Char}
    (h : Spells lang symbol body) : symbol ≠ Symbol.endOfText := by
  obtain ⟨i, j, hi, hfollow, haccepts⟩ := h
  rintro rfl
  cases body using List.reverseRecOn with
  | nil =>
    simp only [follow, Option.some.injEq] at hfollow
    rw [← hfollow, hlang.outside i hi] at haccepts
    simp at haccepts
  | append_singleton s c =>
    obtain ⟨k, -, e, he, -, hskips, rfl⟩ := follow_concat hfollow
    exact (hlang.enters k e he hskips).2 haccepts

theorem Lexeme.ne_endOfText (hlang : lang.Lossless) {symbol : Symbol} {body : List Char}
    (h : Lexeme lang symbol body) : symbol ≠ Symbol.endOfText := by
  rcases h with h | ⟨hkeyword, -⟩
  · exact h.ne_endOfText hlang
  · exact (hlang.keywords _ hkeyword).1

/-! ## Running the automaton -/

/-- Blank space, or at the start of a text blank space behind a byte-order mark. -/
def Gap (before pad : List Char) : Prop :=
  (∀ c ∈ pad, Text.isSpace c = true) ∨ before = [] ∧ ∃ rest, pad = byteOrderMark :: rest
    ∧ ∀ c ∈ rest, Text.isSpace c = true

/-- What is recognised stands in the text directly behind `front`, or is the end of the text. -/
def Recognised (lang : Language) (text front : List Char) (x : Symbol × Extent) : Prop :=
  ∃ body post, text = front ++ body ++ post ∧ x.2 = Extent.ofText (front ++ body)
    ∧ (Spells lang x.1 body ∨ x.1 = Symbol.endOfText ∧ body = [] ∧ post = [])

/-- A run of the automaton has gone over a part of the text. -/
structure Scanned (lang : Language) (text before pad body post : List Char) (r : Scan) : Prop where
  split : text = before ++ pad ++ body ++ post
  start : r.start = Extent.ofText (before ++ pad)
  stop : r.stop = Extent.ofText (before ++ pad ++ body)
  found : ∀ x, r.found = some x → Recognised lang text (before ++ pad) x

theorem found_arrive (s : LexState) (pos : Extent) {found : Option (Symbol × Extent)}
    {P : Symbol × Extent → Prop} (hfound : ∀ x, found = some x → P x)
    (haccepts : ∀ symbol, s.accepts = some symbol → P (symbol, pos)) :
    ∀ x, arrive s pos found = some x → P x := by
  rw [arrive]
  split
  · next symbol h =>
    intro x hx
    obtain rfl : (symbol, pos) = x := by simpa using hx
    exact haccepts symbol h
  · exact hfound

theorem found_none (P : Symbol × Extent → Prop) : ∀ x, none = some x → P x := by simp

/-- A run from inside of a token; `body` is what has been read of the token. -/
theorem scanned_inside (hlang : lang.Lossless) {text before pad : List Char} {i : Nat}
    (hi : (lang.lexRow i).isOutside = true) (rest : List Char) :
    ∀ (body : List Char) {j : Nat} {found : Option (Symbol × Extent)},
      text = before ++ pad ++ body ++ rest → follow lang i body = some j →
      (lang.lexRow j).isOutside = false →
      (∀ x, found = some x → Recognised lang text (before ++ pad) x) →
      ∃ body' post, Scanned lang text before pad body' post
        (run lang j rest (Extent.ofText (before ++ pad)) (Extent.ofText (before ++ pad ++ body))
          found) := by
  induction rest with
  | nil =>
    intro body j found htext hfollow hinside hfound
    have hfound' := found_arrive (lang.lexRow j) (Extent.ofText (before ++ pad ++ body))
      hfound fun symbol haccepts => ⟨body, [], htext, rfl, .inl ⟨i, j, hi, hfollow, haccepts⟩⟩
    refine ⟨body, [], htext, rfl, rfl, ?_⟩
    rw [run]
    simp only
    split
    · next last hlast =>
      rw [(hlang.ends j last hlast).1] at hinside
      simp at hinside
    · exact hfound'
  | cons c rest ih =>
    intro body j found htext hfollow hinside hfound
    have hfound' := found_arrive (lang.lexRow j) (Extent.ofText (before ++ pad ++ body))
      hfound fun symbol haccepts =>
        ⟨body, c :: rest, htext, rfl, .inl ⟨i, j, hi, hfollow, haccepts⟩⟩
    rw [run]
    simp only
    split
    · exact ⟨body, c :: rest, htext, rfl, rfl, hfound'⟩
    · next e hfind =>
      have hmem : e ∈ (lang.lexRow j).edges := List.mem_of_find?_eq_some hfind
      have hskips : e.skips = false := by
        rw [LexState.isOutside, List.any_eq_false] at hinside
        simpa using hinside e hmem
      have hstep : follow lang i (body ++ [c]) = some e.target := by
        rw [follow_append, hfollow, Option.bind_some]
        exact follow_one hfind hskips
      have hnext := ih (body ++ [c]) (by simp [htext]) hstep
        (hlang.enters j e hmem hskips).1 hfound'
      rw [if_neg (by simp [hskips]), Extent.push_ofText, List.append_assoc (before ++ pad)]
      exact hnext

/-- A run from outside of tokens; `pad` is the blank space that has been passed over. -/
theorem scanned_outside (hlang : lang.Lossless) {text before : List Char} (rest : List Char) :
    ∀ (pad : List Char) {i : Nat}, text = before ++ pad ++ rest → Gap before pad →
      (lang.lexRow i).isOutside = true →
      ∃ pad' body post, Gap before pad' ∧ Scanned lang text before pad' body post
        (run lang i rest (Extent.ofText (before ++ pad)) (Extent.ofText (before ++ pad)) none) := by
  induction rest with
  | nil =>
    intro pad i htext hgap hi
    refine ⟨pad, [], [], hgap, by simpa using htext, rfl, by rw [List.append_nil]; rfl, ?_⟩
    rw [run]
    simp only
    have hnone : arrive (lang.lexRow i) (Extent.ofText (before ++ pad)) none = none := by
      rw [arrive, hlang.outside i hi]
    split
    · next last hlast =>
      have hend := (hlang.ends i last hlast).2
      refine found_arrive _ _ (fun x hx => ?_) fun symbol haccepts => ?_
      · rw [← Language.lexRow, hnone] at hx
        simp at hx
      · rw [← Language.lexRow, hend, Option.some.injEq] at haccepts
        exact ⟨[], [], by simpa using htext, by simp, .inr ⟨haccepts.symm, rfl, rfl⟩⟩
    · intro x hx
      rw [← Language.lexRow, hnone] at hx
      simp at hx
  | cons c rest ih =>
    intro pad i htext hgap hi
    have hnone : arrive (lang.lexRow i) (Extent.ofText (before ++ pad)) none = none := by
      rw [arrive, hlang.outside i hi]
    rw [run]
    simp only
    rw [← Language.lexRow, hnone]
    split
    · exact ⟨pad, [], c :: rest, hgap, by simpa using htext, rfl, by rw [List.append_nil],
        by simp⟩
    · next e hfind =>
      have hmem : e ∈ (lang.lexRow i).edges := List.mem_of_find?_eq_some hfind
      have hadmits : e.admits c = true := by simpa using List.find?_some hfind
      cases hskips : e.skips with
      | true =>
        obtain ⟨houtside, hspace⟩ := hlang.skips i e hmem hskips
        have hc := LexEdge.isSpace_of_admits hspace hadmits
        have hgap' : Gap before (pad ++ [c]) := by
          rcases hgap with hpad | ⟨hbefore, mark, rfl, hpad⟩
          · exact .inl (List.forall_mem_append.mpr ⟨hpad, by simpa using hc⟩)
          · exact .inr ⟨hbefore, mark ++ [c], rfl,
              List.forall_mem_append.mpr ⟨hpad, by simpa using hc⟩⟩
        have hnext := ih (pad ++ [c]) (by simp [htext]) hgap' houtside
        rw [if_pos rfl, Extent.push_ofText, List.append_assoc before]
        exact hnext
      | false =>
        have hstep : follow lang i [c] = some e.target := follow_one hfind hskips
        obtain ⟨body, post, hscanned⟩ := scanned_inside hlang hi rest [c]
          (show text = before ++ pad ++ [c] ++ rest by simp [htext]) hstep
          (hlang.enters i e hmem hskips).1 (found_none _)
        rw [if_neg (by simp), Extent.push_ofText]
        exact ⟨pad, body, post, hgap, hscanned⟩

/-- **A run of the automaton at a position passes over a gap and then reads on.** -/
theorem scanned_scan (hlang : lang.Lossless) (before rest : List Char) {i : Nat}
    (hi : (lang.lexRow i).isOutside = true) :
    ∃ pad body post, Gap before pad ∧ Scanned lang (before ++ rest) before pad body post
      (scan lang (Source.ofText (before ++ rest)) i (Extent.ofText before)) := by
  have hplain := scanned_outside hlang rest [] (show before ++ rest = before ++ [] ++ rest by simp)
    (.inl (by simp)) hi
  rw [List.append_nil] at hplain
  rw [scan, Extent.bytes_ofText, Source.suffixAt_ofText]
  split
  · next c rest' hzero =>
    obtain rfl : before = [] := Text.byteLength_eq_zero.mp hzero
    split
    · next hmark =>
      have hmarked := scanned_outside hlang rest' [c] (show c :: rest' = [] ++ [c] ++ rest' from rfl)
        (.inr ⟨rfl, [], by rw [hmark], by simp⟩) hi
      simp only [List.nil_append] at hmarked ⊢
      exact hmarked
    · exact hplain
  · exact hplain

/-! ## Reading a token -/

/-- A token stands at a position: behind a gap there is its text, which is one of its own unless the
token is in error, and the end of the text is where nothing follows.  A token that begins like a
keyword is a word. -/
structure Placed (lang : Language) (before pad body post : List Char) (k : Token) : Prop where
  gap : Gap before pad
  padding : k.padding = Extent.ofText pad
  size : k.size = Extent.ofText body
  spelt : k.symbol = Symbol.error ∨ Lexeme lang k.symbol body
    ∨ k.symbol = Symbol.endOfText ∧ body = [] ∧ post = []
  word : k.keyword = true → Spells lang lang.wordToken body

theorem strip?_eq_some {word text rest : List Char} (h : strip? word text = some rest) :
    text = word ++ rest := by
  induction word generalizing text with
  | nil => simpa [strip?] using h
  | cons w word ih =>
    cases text with
    | nil => simp [strip?] at h
    | cons c text =>
      rw [strip?] at h
      split at h
      · next hc => rw [hc, ih h, List.cons_append]
      · simp at h

/-- The longer one of a keyword found before and another one, if the text begins with that. -/
def keepLonger (text : List Char) (best : Option (Nat × Symbol)) (keyword : List Char × Symbol) :
    Option (Nat × Symbol) :=
  match strip? keyword.1 text with
  | none => best
  | some _ =>
    match best with
    | some (longest, _) =>
      if longest < Text.byteLength keyword.1 then some (Text.byteLength keyword.1, keyword.2)
      else best
    | none => some (Text.byteLength keyword.1, keyword.2)

theorem keywordAt?_eq (text : List Char) :
    keywordAt? lang text = lang.keywords.foldl (keepLonger text) none := rfl

/-- A keyword stands at the beginning of a text. -/
def BeginsWith (lang : Language) (text : List Char) (x : Nat × Symbol) : Prop :=
  ∃ word rest, (word, x.2) ∈ lang.keywords ∧ text = word ++ rest ∧ x.1 = Text.byteLength word

theorem beginsWith_keepLonger {text : List Char} {best : Option (Nat × Symbol)}
    {keyword : List Char × Symbol} (hkeyword : keyword ∈ lang.keywords)
    (hbest : ∀ x, best = some x → BeginsWith lang text x) {x : Nat × Symbol}
    (hx : keepLonger text best keyword = some x) : BeginsWith lang text x := by
  unfold keepLonger at hx
  split at hx
  · exact hbest x hx
  · next rest hstrip =>
    have hfound : BeginsWith lang text (Text.byteLength keyword.1, keyword.2) :=
      ⟨keyword.1, rest, hkeyword, strip?_eq_some hstrip, rfl⟩
    split at hx
    · split at hx
      · exact Option.some.inj hx ▸ hfound
      · exact hbest x hx
    · exact Option.some.inj hx ▸ hfound

/-- The longest keyword at the beginning of a text is one of those that are there. -/
theorem beginsWith_of_keywordAt? {text : List Char} {x : Nat × Symbol}
    (h : keywordAt? lang text = some x) : BeginsWith lang text x := by
  have hall : ∀ (keywords : List (List Char × Symbol)) (best : Option (Nat × Symbol)),
      (∀ word ∈ keywords, word ∈ lang.keywords) →
      (∀ x, best = some x → BeginsWith lang text x) →
      ∀ x, keywords.foldl (keepLonger text) best = some x → BeginsWith lang text x := by
    intro keywords
    induction keywords with
    | nil => exact fun best _ hbest x hx => hbest x hx
    | cons keyword keywords ih =>
      intro best hmem hbest
      exact ih _ (fun w hw => hmem w (List.mem_cons_of_mem _ hw)) fun x hx =>
        beginsWith_keepLonger (hmem _ (List.mem_cons_self ..)) hbest hx
  rw [keywordAt?_eq] at h
  exact hall lang.keywords none (fun _ h => h) (by simp) x h

/-- An identifier is classified as itself, or as a keyword that it is. -/
theorem lexeme_classify {before body post : List Char} (state : ParseState)
    (hword : Spells lang lang.wordToken body) :
    Lexeme lang (classify lang (Source.ofText (before ++ body ++ post)) state
      (Extent.ofText before) (Extent.ofText (before ++ body))).1 body := by
  rw [classify, Extent.bytes_ofText, List.append_assoc, Source.suffixAt_ofText]
  split
  · next bytes symbol hkeyword =>
    split
    · next hends =>
      obtain ⟨word, rest, hmem, htext, hbytes⟩ := beginsWith_of_keywordAt? hkeyword
      have hlength : Text.byteLength before + bytes = Text.byteLength (before ++ body) := by
        simpa using (Bool.and_eq_true_iff.mp hends).1
      rw [Text.byteLength_append] at hlength
      obtain ⟨rfl, -⟩ := Text.append_inj_of_byteLength htext (by omega)
      exact .inr ⟨hmem, hword⟩
    · exact .inl hword
  · exact .inl hword

/-- Skipping goes on from where it has come to in the text. -/
theorem skip_placed (hlang : lang.Lossless) {text before pad : List Char} (fuel : Nat) :
    ∀ (body rest : List Char) (culprit : Char) (furthest : Nat),
      text = before ++ pad ++ body ++ rest →
      ∃ body' post culprit', text = before ++ pad ++ body' ++ post
        ∧ (skip lang (Source.ofText text) fuel
            ⟨Extent.ofText (before ++ pad), Extent.ofText (before ++ pad ++ body), culprit⟩
            (Extent.ofText (before ++ pad ++ body)) furthest).1
          = .garbage ⟨Extent.ofText (before ++ pad), Extent.ofText (before ++ pad ++ body'),
              culprit'⟩ := by
  induction fuel with
  | zero => exact fun _ _ _ _ htext => ⟨_, _, _, htext, rfl⟩
  | succ fuel ih =>
    intro body rest culprit furthest htext
    obtain ⟨pad', body', post, -, hscan⟩ := scanned_scan hlang (before ++ pad ++ body)
      rest (hlang.starts ParseState.recovering)
    rw [← htext] at hscan
    rw [skip]
    simp only
    generalize scan lang (Source.ofText text) (lang.lexState ParseState.recovering)
      (Extent.ofText (before ++ pad ++ body)) = r at hscan
    split
    · exact ⟨_, _, _, htext, rfl⟩
    · split
      · next hsame =>
        have hsuffix : (Source.ofText text).suffixAt r.stop.bytes = rest := by
          rw [hsame, Extent.bytes_ofText, htext, Source.suffixAt_ofText]
        have hstop : r.stop = Extent.ofText (before ++ pad ++ body) := by
          have hbytes := hscan.stop
          rw [hscan.stop, Extent.bytes_ofText, Extent.bytes_ofText] at hsame
          have hnil : Text.byteLength (pad' ++ body') = 0 := by
            simp only [Text.byteLength_append] at hsame ⊢
            omega
          rw [hbytes, List.append_assoc (before ++ pad ++ body), Text.byteLength_eq_zero.mp hnil,
            List.append_nil]
        split
        · exact ⟨_, _, _, htext, rfl⟩
        · next c rest' hrest =>
          obtain rfl : rest = c :: rest' := hsuffix.symm.trans hrest
          have hnext := ih (body ++ [c]) rest' culprit
            (max furthest (r.stop.bytes + 1)) (by simp [htext])
          rw [hstop, Extent.push_ofText, List.append_assoc (before ++ pad)]
          rw [hstop] at hnext
          exact hnext
      · have hnext := ih (body ++ pad' ++ body') post culprit
          (max furthest (r.stop.bytes + 1)) (by rw [hscan.split]; simp)
        have hstop : r.stop = Extent.ofText (before ++ pad ++ (body ++ pad' ++ body')) := by
          rw [hscan.stop]
          simp
        rw [hstop] at hnext ⊢
        exact hnext

/-- What reading comes to stands behind a gap. -/
def ReadingPlaced (lang : Language) (text before : List Char) : Reading → Prop
  | .token symbol start stop => ∃ pad body post, text = before ++ pad ++ body ++ post
    ∧ Gap before pad ∧ start = Extent.ofText (before ++ pad)
    ∧ stop = Extent.ofText (before ++ pad ++ body)
    ∧ (Spells lang symbol body ∨ symbol = Symbol.endOfText ∧ body = [] ∧ post = [])
  | .garbage s => ∃ pad body post, text = before ++ pad ++ body ++ post ∧ Gap before pad
    ∧ s.start = Extent.ofText (before ++ pad) ∧ s.stop = Extent.ofText (before ++ pad ++ body)

theorem Scanned.readingPlaced {text before pad body post : List Char} {r : Scan}
    (h : Scanned lang text before pad body post r) (hgap : Gap before pad) {symbol : Symbol}
    {stop : Extent} (hfound : r.found = some (symbol, stop)) :
    ReadingPlaced lang text before (.token symbol r.start stop) := by
  obtain ⟨body', post', htext, hstop, hspelt⟩ := h.found _ hfound
  exact ⟨pad, body', post', htext, hgap, h.start, hstop, hspelt⟩

/-- Where no token begins, the characters that are skipped stand behind the gap. -/
theorem beginSkip_placed (hlang : lang.Lossless) {text before pad body post : List Char} {r : Scan}
    (h : Scanned lang text before pad body post r) (hgap : Gap before pad) (furthest : Nat) :
    ReadingPlaced lang text before (beginSkip lang (Source.ofText text) r furthest).1 := by
  have hskip : ∀ (fuel : Nat) {body rest : List Char} {culprit : Char},
      text = before ++ pad ++ body ++ rest →
      ReadingPlaced lang text before (skip lang (Source.ofText text) fuel
        ⟨r.start, Extent.ofText (before ++ pad ++ body), culprit⟩
        (Extent.ofText (before ++ pad ++ body)) furthest).1 := by
    intro fuel body rest culprit htext
    obtain ⟨body', post', culprit', htext', hresult⟩ := skip_placed hlang fuel body rest culprit
      furthest htext
    rw [h.start, hresult]
    exact ⟨pad, body', post', htext', hgap, rfl, rfl⟩
  rw [beginSkip]
  simp only
  split
  · next hsame =>
    have hstop : r.stop = Extent.ofText (before ++ pad) := by
      have hbytes := h.stop
      rw [h.stop, h.start, Extent.bytes_ofText, Extent.bytes_ofText, Text.byteLength_append]
        at hsame
      have hnil : body = [] := Text.byteLength_eq_zero.mp (by omega)
      rw [hbytes, hnil, List.append_nil]
    split
    · exact ⟨pad, [], body ++ post, by simp [h.split], hgap, h.start, by simp [h.start]⟩
    · next c rest hrest =>
      have hsuffix : (Source.ofText text).suffixAt r.stop.bytes = body ++ post := by
        rw [hstop, Extent.bytes_ofText, h.split, List.append_assoc (before ++ pad),
          Source.suffixAt_ofText]
      have htext : text = before ++ pad ++ [c] ++ rest := by
        rw [h.split, List.append_assoc (before ++ pad), ← hsuffix, hrest]
        simp
      rw [hstop, Extent.push_ofText]
      exact hskip _ htext
  · rw [h.stop]
    exact hskip _ h.split

theorem read_placed (hlang : lang.Lossless) (before rest : List Char) (state : ParseState) :
    ReadingPlaced lang (before ++ rest) before
      (read lang (Source.ofText (before ++ rest)) state (Extent.ofText before)).1 := by
  have hscanned : ∀ state, ∃ pad body post, Gap before pad
      ∧ Scanned lang (before ++ rest) before pad body post
        (scan lang (Source.ofText (before ++ rest)) (lang.lexState state) (Extent.ofText before)) :=
    fun state => scanned_scan hlang _ _ (hlang.starts state)
  rw [read]
  simp only
  split
  · next symbol stop hfound =>
    obtain ⟨pad, body, post, hgap, h⟩ := hscanned state
    exact h.readingPlaced hgap hfound
  · -- what the automaton does in recovery, whether or not the state is that of recovery
    have hrecovery : ∃ pad body post, Gap before pad
        ∧ Scanned lang (before ++ rest) before pad body post
          (if state = ParseState.recovering then
            scan lang (Source.ofText (before ++ rest)) (lang.lexState state) (Extent.ofText before)
          else scan lang (Source.ofText (before ++ rest)) (lang.lexState ParseState.recovering)
            (Extent.ofText before)) := by
      split
      · exact hscanned state
      · exact hscanned ParseState.recovering
    obtain ⟨pad, body, post, hgap, h⟩ := hrecovery
    split
    · next symbol stop hfound => exact h.readingPlaced hgap hfound
    · exact beginSkip_placed hlang h hgap _

/-- **A token that is read at a position stands there in the text.** -/
theorem placed_next (hlang : lang.Orderly) (hlossless : lang.Lossless) {before rest : List Char}
    (state : ParseState) :
    ∃ pad body post, before ++ rest = before ++ pad ++ body ++ post
      ∧ Placed lang before pad body post
        (next lang (Source.ofText (before ++ rest)) state (Extent.ofText before)) := by
  have hread := read_placed hlossless before rest state
  rw [next]
  split
  · next s furthest hgarbage =>
    rw [hgarbage] at hread
    obtain ⟨pad, body, post, htext, hgap, hstart, hstop⟩ := hread
    refine ⟨pad, body, post, htext, hgap, ?_, ?_, .inl rfl, fun h => absurd h (by simp)⟩
    · simp only [hstart, Extent.ofText_sub]
    · simp only [hstart, hstop, Extent.ofText_sub]
  · next symbol start stop furthest htoken =>
    rw [htoken] at hread
    obtain ⟨pad, body, post, htext, hgap, rfl, rfl, hspelt⟩ := hread
    refine ⟨pad, body, post, htext, hgap, ?_, ?_, ?_, ?_⟩
    · split
      simp only [Extent.ofText_sub]
    · split
      simp only [Extent.ofText_sub]
    · right
      simp only
      split
      · next hword =>
        subst hword
        rcases hspelt with hspells | ⟨hend, -, -⟩
        · rw [htext]
          exact .inl (lexeme_classify state hspells)
        · exact absurd hend hlang.word.2.1
      · exact hspelt.imp_left .inl
    · split
      next symbol' keyword hkind =>
      intro hkeyword
      split at hkind
      · next hword =>
        subst hword
        rcases hspelt with hspells | ⟨hend, -, -⟩
        · exact hspells
        · exact absurd hend hlang.word.2.1
      · have hfalse : keyword = false := (congrArg Prod.snd hkind).symm
        exact absurd (hkeyword.symm.trans hfalse) (by simp)

end Lexer

end SyntaxKit
