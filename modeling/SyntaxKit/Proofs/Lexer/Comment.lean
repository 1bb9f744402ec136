import Mathlib.Data.List.Infix
import SyntaxKit.Proofs.Lexer.Lexeme

/-!
# Block comments

Behind `/*` the lexical automaton of Harneet goes back and forth between two states, one of them
behind a `*`, until a `*` is followed by `/`; only a NUL stops it before.  What it has read then is
the text up to and with the first `*/` (`Comment.closing`, `Comment.closing_eq_some_iff`).

So wherever `/*` stands, the token read in any parse state is the comment that ends at the first `*/`,
however it goes on, or just the `/` if there is no `*/` or a NUL before it
(`Harneet.next_blockComment`).
-/

namespace SyntaxKit

/-! ## The first terminator -/

namespace Comment

/-- What ends a block comment. -/
def terminator : List Char := ['*', '/']

/-- The text up to and with the first `*/`, unless there is none or a NUL comes first; `starred` says
that there is a `*` directly before. -/
def closing : Bool → List Char → Option (List Char)
  | _, [] => none
  | starred, c :: rest =>
    if c = '\x00' then none
    else if starred && c == '/' then some [c]
    else (closing (c == '*') rest).map (c :: ·)

/-- The `*` that may stand directly before. -/
def star (starred : Bool) : List Char := if starred then ['*'] else []

/-- A terminator begins with the first character or later. -/
theorem terminator_infix_cons {c : Char} {t : List Char} :
    terminator <:+: c :: t ↔ (c = '*' ∧ ∃ rest, t = '/' :: rest) ∨ terminator <:+: t := by
  rw [List.infix_cons_iff, terminator, List.cons_prefix_cons]
  refine or_congr_left (and_congr ⟨Eq.symm, Eq.symm⟩ ?_)
  cases t with
  | nil => simp
  | cons d t => simp [List.cons_prefix_cons, eq_comm]

theorem closing_append {inner : List Char} (post : List Char) (hnul : '\x00' ∉ inner)
    {starred : Bool} (hfirst : ¬terminator <:+: star starred ++ inner ++ ['*']) :
    closing starred (inner ++ terminator ++ post) = some (inner ++ terminator) := by
  induction inner generalizing starred with
  | nil => simp [closing, terminator]
  | cons c inner ih =>
    obtain ⟨hc, hnul⟩ := not_or.mp (mt List.mem_cons.mpr hnul)
    have hends : (starred && c == '/') = false := by
      by_contra hends
      obtain ⟨rfl, rfl⟩ : starred = true ∧ c = '/' := by simpa using hends
      exact hfirst ⟨[], inner ++ ['*'], rfl⟩
    have hlater : ¬terminator <:+: star (c == '*') ++ inner ++ ['*'] := by
      intro hin
      refine hfirst (hin.trans ?_)
      rw [star]
      split
      · next hstar =>
        obtain rfl : c = '*' := by simpa using hstar
        exact ⟨star starred, [], by simp⟩
      · exact ⟨star starred ++ [c], [], by simp⟩
    rw [List.cons_append, List.cons_append, closing, if_neg (Ne.symm hc), hends,
      if_neg Bool.false_ne_true, ih hnul hlater]
    rfl

theorem exists_of_closing {t body : List Char} {starred : Bool} (h : closing starred t = some body) :
    ∃ inner post, t = body ++ post ∧ star starred ++ body = inner ++ terminator
      ∧ '\x00' ∉ body ∧ ¬terminator <:+: inner ++ ['*'] := by
  induction t generalizing starred body with
  | nil => simp [closing] at h
  | cons c t ih =>
    rw [closing] at h
    split at h
    · simp at h
    next hc =>
    split at h
    · next hends =>
      obtain ⟨rfl, rfl⟩ : starred = true ∧ c = '/' := by simpa using hends
      obtain rfl := Option.some.inj h
      exact ⟨[], t, rfl, rfl, by simp, by decide⟩
    · next hends =>
      obtain ⟨rest, hrest, rfl⟩ := Option.map_eq_some_iff.mp h
      obtain ⟨inner, post, rfl, hinner, hnul, hfirst⟩ := ih hrest
      have hnul' : '\x00' ∉ c :: rest := by simp [Ne.symm hc, hnul]
      by_cases hstar : c = '*'
      · -- what is before the terminator begins with this `*`, so nothing has ended before it
        subst hstar
        have hhead : ∀ rest', inner ++ ['*'] ≠ '/' :: rest' := by
          rintro rest' heq
          cases inner with
          | nil => simp at heq
          | cons d inner =>
            have hd : '*' = d := (List.cons.inj hinner).1
            exact absurd (hd.trans (List.cons.inj heq).1) (by decide)
        refine ⟨star starred ++ inner, post, rfl, ?_, hnul', ?_⟩
        · rw [List.append_assoc, ← hinner]
          rfl
        · cases starred with
          | false => exact hfirst
          | true =>
            rw [show star true ++ inner ++ ['*'] = '*' :: (inner ++ ['*']) from rfl,
              terminator_infix_cons]
            rintro (⟨-, rest', heq⟩ | hin)
            · exact hhead rest' heq
            · exact hfirst hin
      · have hnone : star (c == '*') = [] := by simp [star, hstar]
        rw [hnone, List.nil_append] at hinner
        have hlater : ¬terminator <:+: c :: (inner ++ ['*']) := by
          rw [terminator_infix_cons]
          rintro (⟨heq, -⟩ | hin)
          · exact hstar heq
          · exact hfirst hin
        refine ⟨star starred ++ c :: inner, post, rfl, by simp [hinner], hnul', ?_⟩
        cases starred with
        | false => exact hlater
        | true =>
          rw [show star true ++ c :: inner ++ ['*'] = '*' :: c :: (inner ++ ['*']) from rfl,
            terminator_infix_cons]
          rintro (⟨-, rest', heq⟩ | hin)
          · have hslash : c = '/' := (List.cons.inj heq).1
            exact hends (by simp [hslash])
          · exact hlater hin

/-- **What closes a comment is the first terminator**, if no NUL comes before it. -/
theorem closing_eq_some_iff {t body : List Char} : closing false t = some body ↔
    ∃ inner post, t = inner ++ terminator ++ post ∧ body = inner ++ terminator
      ∧ '\x00' ∉ inner ∧ ¬terminator <:+: inner ++ ['*'] := by
  constructor
  · intro h
    obtain ⟨inner, post, rfl, hbody, hnul, hfirst⟩ := exists_of_closing h
    obtain rfl : body = inner ++ terminator := hbody
    exact ⟨inner, post, rfl, rfl, fun hmem => hnul (List.mem_append_left _ hmem), hfirst⟩
  · rintro ⟨inner, post, rfl, rfl, hnul, hfirst⟩
    exact closing_append post hnul hfirst

end Comment

namespace Harneet

open Lexer

/-! ## The automaton in a comment -/

/-- The state of the lexical automaton in a block comment, and the one behind a `*` there. -/
def commentState (starred : Bool) : Nat := if starred then 57 else 40

/-- Outside of tokens the automaton is in one of three states. -/
theorem outside_states {i : Nat} (h : (language.lexRow i).isOutside = true) :
    i = 0 ∨ i = 64 ∨ i = 67 := by
  have hall : ∀ i ∈ List.range language.lexStates.size,
      (language.lexRow i).isOutside = true → i = 0 ∨ i = 64 ∨ i = 67 := by decide +kernel
  by_cases hi : i < language.lexStates.size
  · exact hall i (List.mem_range.mpr hi) h
  · rw [Language.lexRow, Array.getD_eq_getD_getElem?,
      Array.getElem?_eq_none (Nat.le_of_not_lt hi)] at h
    exact absurd h (by decide)

/-- A run goes on over an edge on which nothing is passed over. -/
theorem run_cons {i : Nat} {c : Char} {e : LexEdge} (rest : List Char) (start pos : Extent)
    (found : Option (Symbol × Extent))
    (hfind : (language.lexRow i).edges.find? (·.admits c) = some e) (hskips : e.skips = false) :
    run language i (c :: rest) start pos found
      = run language e.target rest start (pos.push c) (arrive (language.lexRow i) pos found) := by
  rw [run, ← Language.lexRow, hfind]
  simp only [hskips, Bool.false_eq_true, if_false]

/-- In a comment the automaton goes on over every character but NUL. -/
theorem find?_comment {c : Char} (hc : c ≠ '\x00') (starred : Bool) :
    ∃ e, (language.lexRow (commentState starred)).edges.find? (·.admits c) = some e
      ∧ e.skips = false
      ∧ e.target = if starred && c == '/' then 63 else commentState (c == '*') := by
  have hedges : (language.lexRow (commentState starred)).edges = if starred then
      [⟨[(1, 41), (43, 46), (48, 1114111)], 40, false⟩, ⟨[(42, 42)], 57, false⟩,
        ⟨[(47, 47)], 63, false⟩]
    else [⟨[(1, 41), (43, 1114111)], 40, false⟩, ⟨[(42, 42)], 57, false⟩] := by
    cases starred <;> rfl
  have hlow : c.toNat ≠ 0 := mt (Char.toNat_inj (d := '\x00')).mp hc
  have hhigh : c.toNat < 1114112 := by
    have hvalid : c.toNat < 0xD800 ∨ 0xDFFF < c.toNat ∧ c.toNat < 0x110000 := c.valid
    omega
  rw [hedges]
  by_cases hstar : c = '*'
  · subst hstar
    cases starred <;> exact ⟨_, rfl, rfl, rfl⟩
  have hnstar : c.toNat ≠ 42 := mt (Char.toNat_inj (d := '*')).mp hstar
  by_cases hslash : c = '/'
  · subst hslash
    cases starred <;> exact ⟨_, rfl, rfl, rfl⟩
  have hnslash : c.toNat ≠ 47 := mt (Char.toNat_inj (d := '/')).mp hslash
  refine ⟨if starred then ⟨[(1, 41), (43, 46), (48, 1114111)], 40, false⟩
    else ⟨[(1, 41), (43, 1114111)], 40, false⟩, ?_, ?_, ?_⟩
  · cases starred
    · have hadmits : LexEdge.admits ⟨[(1, 41), (43, 1114111)], 40, false⟩ c = true := by
        simp [LexEdge.admits]
        omega
      exact List.find?_cons_of_pos hadmits
    · have hadmits : LexEdge.admits ⟨[(1, 41), (43, 46), (48, 1114111)], 40, false⟩ c = true := by
        simp [LexEdge.admits]
        omega
      exact List.find?_cons_of_pos hadmits
  · cases starred <;> rfl
  · cases starred <;> simp [commentState, hstar, hslash]

/-- A run from inside of a comment comes to its end if it is closed, and to nothing new if not. -/
theorem run_comment (rest : List Char) : ∀ (starred : Bool) (front : List Char) (start : Extent)
    (found : Option (Symbol × Extent)),
    (run language (commentState starred) rest start (Extent.ofText front) found).start = start
      ∧ (run language (commentState starred) rest start (Extent.ofText front) found).found
        = match Comment.closing starred rest with
          | some body => some (7, Extent.ofText (front ++ body))
          | none => found := by
  have hrow : ∀ starred, (language.lexRow (commentState starred)).accepts = none
      ∧ (language.lexRow (commentState starred)).atEnd = none := by decide
  induction rest with
  | nil =>
    intro starred front start found
    rw [run, ← Language.lexRow, arrive, (hrow starred).1, (hrow starred).2]
    exact ⟨rfl, rfl⟩
  | cons c rest ih =>
    intro starred front start found
    rw [Comment.closing]
    by_cases hc : c = '\x00'
    · subst hc
      have hnone : (language.lexRow (commentState starred)).edges.find? (·.admits '\x00') = none := by
        cases starred <;> rfl
      rw [run, ← Language.lexRow, arrive, (hrow starred).1, hnone]
      exact ⟨rfl, rfl⟩
    · obtain ⟨e, hfind, hskips, htarget⟩ := find?_comment hc starred
      rw [run_cons rest start (Extent.ofText front) found hfind hskips, htarget, if_neg hc, arrive,
        (hrow starred).1, Extent.push_ofText]
      split
      · next hends =>
        -- behind the terminator there is no way on
        have hlast : language.lexRow 63 = ⟨some 7, none, []⟩ := rfl
        cases rest <;> rw [run, ← Language.lexRow, hlast] <;> exact ⟨rfl, rfl⟩
      · obtain ⟨hstart, hfound⟩ := ih (c == '*') (front ++ [c]) start found
        refine ⟨hstart, hfound.trans ?_⟩
        cases Comment.closing (c == '*') rest with
        | none => rfl
        | some body => simp

/-! ## Reading a comment -/

/-- A run from outside of tokens over `/*`: the `/` is a token of its own, but not in the state `64`. -/
theorem scan_comment {i : Nat} (hi : i = 0 ∨ i = 64 ∨ i = 67) (before rest : List Char) :
    (scan language (Source.ofText (before ++ '/' :: '*' :: rest)) i (Extent.ofText before)).start
        = Extent.ofText before
      ∧ (scan language (Source.ofText (before ++ '/' :: '*' :: rest)) i
          (Extent.ofText before)).found
        = match Comment.closing false rest with
          | some body => some (7, Extent.ofText (before ++ '/' :: '*' :: body))
          | none => if i = 64 then none else some (90, Extent.ofText (before ++ ['/'])) := by
  have hscan : scan language (Source.ofText (before ++ '/' :: '*' :: rest)) i (Extent.ofText before)
      = run language i ('/' :: '*' :: rest) (Extent.ofText before) (Extent.ofText before) none := by
    rw [scan, Extent.bytes_ofText, Source.suffixAt_ofText]
    split
    · next c rest' _ heq =>
      obtain ⟨rfl, rfl⟩ := List.cons.inj heq
      rw [if_neg (by decide)]
    · rfl
  have hrun : run language i ('/' :: '*' :: rest) (Extent.ofText before) (Extent.ofText before) none
      = run language (commentState false) rest (Extent.ofText before)
        (Extent.ofText (before ++ ['/', '*']))
        (if i = 64 then none else some (90, Extent.ofText (before ++ ['/']))) := by
    have hslash : ∃ e f, (language.lexRow i).edges.find? (·.admits '/') = some e ∧ e.skips = false
        ∧ (language.lexRow e.target).edges.find? (·.admits '*') = some f ∧ f.skips = false
        ∧ f.target = commentState false ∧ (language.lexRow i).accepts = none
        ∧ (language.lexRow e.target).accepts = if i = 64 then none else some 90 := by
      rcases hi with rfl | rfl | rfl <;> exact ⟨_, _, rfl, rfl, rfl, rfl, rfl, rfl, rfl⟩
    obtain ⟨e, f, he, heskips, hf, hfskips, htarget, hnone, haccepts⟩ := hslash
    rw [run_cons _ _ _ _ he heskips, run_cons _ _ _ _ hf hfskips, htarget, Extent.push_ofText,
      Extent.push_ofText, List.append_assoc, arrive, arrive, hnone, haccepts]
    by_cases h64 : i = 64
    · rw [if_pos h64, if_pos h64]
      rfl
    · rw [if_neg h64, if_neg h64]
      rfl
  obtain ⟨hstart, hfound⟩ := run_comment rest false (before ++ ['/', '*']) (Extent.ofText before)
    (if i = 64 then none else some (90, Extent.ofText (before ++ ['/'])))
  rw [hscan, hrun]
  refine ⟨hstart, hfound.trans ?_⟩
  cases Comment.closing false rest with
  | none => rfl
  | some body => simp

/-- What is read where `/*` stands, in any parse state. -/
theorem read_comment (before rest : List Char) (state : ParseState) :
    (read language (Source.ofText (before ++ '/' :: '*' :: rest)) state (Extent.ofText before)).1
      = match Comment.closing false rest with
        | some body =>
          .token 7 (Extent.ofText before) (Extent.ofText (before ++ '/' :: '*' :: body))
        | none => .token 90 (Extent.ofText before) (Extent.ofText (before ++ ['/'])) := by
  have hrecovering : language.lexState ParseState.recovering = 0 := by decide +kernel
  obtain ⟨hstart, hfound⟩ := scan_comment (outside_states (lossless.starts state)) before rest
  obtain ⟨hstart', hfound'⟩ := scan_comment (.inl hrecovering) before rest
  rw [Lexer.read]
  simp only
  cases hclosing : Comment.closing false rest with
  | some body =>
    rw [hclosing] at hfound
    rw [hfound, hstart]
  | none =>
    rw [hclosing] at hfound hfound'
    by_cases h64 : language.lexState state = 64
    · -- the state knows no token that begins here, but that of recovery does
      have hstate : state ≠ ParseState.recovering := by
        rintro rfl
        rw [hrecovering] at h64
        exact absurd h64 (by decide)
      dsimp only at hfound hfound'
      rw [if_pos h64] at hfound
      rw [hfound]
      simp only
      rw [if_neg hstate, hfound', if_neg (by rw [hrecovering]; decide), hstart']
    · dsimp only at hfound
      rw [if_neg h64] at hfound
      rw [hfound, hstart]

/-- **A block comment ends at the first terminator.**  Where `/*` stands in a text, in any parse state
the token is the comment up to and with the first `*/` behind it, whatever follows; but it is only the
`/` if there is no `*/`, or a NUL before it. -/
theorem next_blockComment (before rest : List Char) (state : ParseState) :
    let k := next language (Source.ofText (before ++ '/' :: '*' :: rest)) state (Extent.ofText before)
    k.padding = Extent.zero ∧ match Comment.closing false rest with
      | some body =>
        language.symbolName k.symbol = "comment" ∧ k.size = Extent.ofText ('/' :: '*' :: body)
      | none => language.symbolName k.symbol = "/" ∧ k.size = Extent.ofText ['/'] := by
  have hzero : Extent.ofText before - Extent.ofText before = Extent.zero := by
    have hsub := Extent.ofText_sub before []
    rwa [List.append_nil] at hsub
  have hread := read_comment before rest state
  intro k
  have hk : k = next language (Source.ofText (before ++ '/' :: '*' :: rest)) state
    (Extent.ofText before) := rfl
  generalize hreading : read language (Source.ofText (before ++ '/' :: '*' :: rest)) state
    (Extent.ofText before) = reading at hread
  obtain ⟨reading, furthest⟩ := reading
  obtain rfl : reading = _ := hread
  rw [hk, next, hreading]
  cases Comment.closing false rest with
  | some body =>
    dsimp only
    rw [if_neg (by decide)]
    exact ⟨hzero, by decide +kernel, Extent.ofText_sub before _⟩
  | none =>
    dsimp only
    rw [if_neg (by decide)]
    exact ⟨hzero, by decide +kernel, Extent.ofText_sub before _⟩

/-- The `*` before the terminator may be one of several, and a second terminator does not count. -/
example : Comment.closing false ['*', '*', '/', '*', '/'] = some ['*', '*', '/'] := by decide

end Harneet

end SyntaxKit
