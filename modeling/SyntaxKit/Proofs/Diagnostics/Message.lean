import SyntaxKit.Proofs.CommandLine.Highlight
import SyntaxKit.Proofs.Document.Reached
import SyntaxKit.Proofs.Tree.Ranges

/-!
# What the message of an error quotes

The message for text that did not fit quotes a part of one line of it.  The part is cut out of the
text in four steps: the range of the error is sliced, blanks are trimmed off the slice, its first
line is taken, and that is cut off behind a number of characters.  Slicing never fails for an error
of a document, so nothing is quoted only if there is nothing but blanks, and else the quoted part is
bounded and not empty (`Document.Reached.unexpected_message`).
-/

namespace SyntaxKit

namespace Text

variable {t line : List Char} {c : Char}

/-! ## Trimming -/

theorem trim_isPrefix (t : List Char) : trim t <+: trimStart t := by
  have hback : ((trimStart t).reverse).dropWhile isBlank <:+ (trimStart t).reverse :=
    List.dropWhile_suffix isBlank
  simpa [trim, trimEnd] using List.reverse_prefix.mpr hback

/-- Behind the blanks at the start of a text comes a character that is not blank. -/
theorem isBlank_of_trimStart {rest : List Char} (h : trimStart t = c :: rest) :
    isBlank c = false := by
  rw [trimStart] at h
  have hne : t.dropWhile isBlank ≠ [] := by simp [h]
  simpa [h] using List.head_dropWhile_not isBlank hne

/-- Nothing is left of a text just if it is blank. -/
theorem trim_eq_nil_iff : trim t = [] ↔ ∀ c ∈ t, isBlank c = true := by
  constructor
  · intro h
    have hall : ∀ c ∈ trimStart t, isBlank c = true := by
      simpa [trim, trimEnd, List.dropWhile_eq_nil_iff] using h
    cases hstart : trimStart t with
    | nil => exact List.dropWhile_eq_nil_iff.mp hstart
    | cons c rest =>
      have hc := hall c (by simp [hstart])
      rw [isBlank_of_trimStart hstart] at hc
      simp at hc
  · intro h
    have hstart : trimStart t = [] := List.dropWhile_eq_nil_iff.mpr h
    rw [trim, hstart]
    rfl

/-! ## First lines -/

/-- The first line of a text is what is before the first `\n` of it, without a `\r` in front of
that; a text without `\n` is one line. -/
inductive IsFirstLine : List Char → List Char → Prop
  | whole {line : List Char} (h : '\n' ∉ line) : IsFirstLine line line
  | newline {line : List Char} (rest : List Char) (h : '\n' ∉ line)
    (hreturn : line.getLast? ≠ some '\r') : IsFirstLine (line ++ '\n' :: rest) line
  | returned {line : List Char} (rest : List Char) (h : '\n' ∉ line) :
    IsFirstLine (line ++ '\r' :: '\n' :: rest) line

theorem isFirstLine_firstLine (t : List Char) : IsFirstLine t (firstLine t) := by
  have hsplit : t.takeWhile (· != '\n') ++ t.dropWhile (· != '\n') = t :=
    List.takeWhile_append_dropWhile
  have hline : '\n' ∉ t.takeWhile (· != '\n') := fun hmem => by
    simpa using List.all_eq_true.mp List.all_takeWhile _ hmem
  rw [firstLine, List.span_eq_takeWhile_dropWhile]
  generalize t.takeWhile (· != '\n') = line at hsplit hline
  cases hrest : t.dropWhile (· != '\n') with
  | nil =>
    rw [hrest, List.append_nil] at hsplit
    rw [← hsplit]
    exact .whole hline
  | cons c rest =>
    have hc : c = '\n' := by
      have hne : t.dropWhile (· != '\n') ≠ [] := by simp [hrest]
      simpa [hrest] using List.head_dropWhile_not (· != '\n') hne
    rw [hrest, hc] at hsplit
    dsimp only
    split
    · next hreturn =>
      obtain ⟨init, rfl⟩ := List.getLast?_eq_some_iff.mp hreturn
      rw [List.dropLast_concat, ← hsplit, List.append_assoc]
      exact .returned rest fun hmem => hline (List.mem_append_left _ hmem)
    · next hreturn =>
      rw [← hsplit]
      exact .newline rest hline hreturn

theorem IsFirstLine.isPrefix (h : IsFirstLine t line) : line <+: t := by
  cases h with
  | whole => exact List.prefix_rfl
  | newline rest => exact List.prefix_append line _
  | returned rest => exact List.prefix_append line _

theorem IsFirstLine.newline_notMem (h : IsFirstLine t line) : '\n' ∉ line := by
  cases h <;> assumption

/-- A line that begins with a character that is not blank is not empty. -/
theorem IsFirstLine.ne_nil {rest : List Char} (h : IsFirstLine (c :: rest) line)
    (hc : isBlank c = false) : line ≠ [] := by
  rintro rfl
  generalize htext : c :: rest = text at h
  cases h with
  | whole => simp at htext
  | newline rest =>
    rw [(List.cons.inj htext).1] at hc
    exact absurd hc (by decide)
  | returned rest =>
    rw [(List.cons.inj htext).1] at hc
    exact absurd hc (by decide)

end Text

namespace SyntaxError

variable {text line : List Char}

/-! ## Messages -/

/-- What is left of a text that is cut off, and an ellipsis if there was more. -/
theorem cutOff_eq (line : List Char) (n : Nat) :
    cutOff line n = line.take n ++ if n < line.length then ['…'] else [] := by
  rw [cutOff]
  split
  · rfl
  · next h => rw [List.take_of_length_le (by omega), List.append_nil]

theorem unexpectedMessage_of_blank (h : ∀ c ∈ text, Text.isBlank c = true) :
    unexpectedMessage text = "unexpected input" := by
  rw [unexpectedMessage, Text.trim_eq_nil_iff.mpr h]

theorem unexpectedMessage_of_trim (h : Text.trim text ≠ []) :
    unexpectedMessage text = "unexpected `"
      ++ String.ofList (cutOff (Text.firstLine (Text.trim text)) maxQuoted) ++ "`" := by
  rw [unexpectedMessage]
  split
  · next hnil => exact absurd hnil h
  · rfl

/-- A message that quotes something is another one than that for blank text. -/
theorem quoted_ne_input (quoted : String) :
    "unexpected `" ++ quoted ++ "`" ≠ "unexpected input" := by
  intro h
  have hchars := congrArg String.toList h
  simp at hchars

/-- What a message may quote of a text: a first part of what is behind the blanks at the start of
the text, which is not empty, begins with a character that is not blank, does not go beyond a line
and is not too long. -/
structure Quotable (text snippet : List Char) : Prop where
  front : snippet <+: Text.trimStart text
  nonempty : snippet ≠ []
  begins : ∀ c ∈ snippet.head?, Text.isBlank c = false
  unbroken : '\n' ∉ snippet
  short : snippet.length ≤ 32

/-- The first characters of the first line of a text that is not blank may be quoted. -/
theorem quotable_take (hne : Text.trim text ≠ [])
    (hline : Text.IsFirstLine (Text.trim text) line) : Quotable text (line.take 32) := by
  have hfront : line <+: Text.trimStart text := hline.isPrefix.trans (Text.trim_isPrefix text)
  obtain ⟨c, rest, htrim⟩ := List.exists_cons_of_ne_nil hne
  have hstart : ∃ rest', Text.trimStart text = c :: rest' := by
    obtain ⟨back, hback⟩ := Text.trim_isPrefix text
    exact ⟨rest ++ back, by rw [← hback, htrim, List.cons_append]⟩
  obtain ⟨rest', hstart⟩ := hstart
  have hblank := Text.isBlank_of_trimStart hstart
  have hlineNe : line ≠ [] := (htrim ▸ hline).ne_nil hblank
  obtain ⟨a, line', rfl⟩ := List.exists_cons_of_ne_nil hlineNe
  obtain rfl : a = c := by
    rw [hstart] at hfront
    exact (List.cons_prefix_cons.mp hfront).1
  exact {
    front := (List.take_prefix 32 _).trans hfront
    nonempty := by simp
    begins := by simpa using hblank
    unbroken := fun hmem => hline.newline_notMem (List.mem_of_mem_take hmem)
    short := List.length_take_le 32 _ }

/-- An error of a node that is not missing quotes the text between the ends of the error. -/
theorem message_ofNode {lang : Language} {n : Node} {slice : List Char}
    (hcause : (ofNode lang (Source.ofText text) n).cause = .unexpected)
    (hslice : Text.IsSlice text n.start.bytes n.stop.bytes slice) :
    (ofNode lang (Source.ofText text) n).message = unexpectedMessage slice := by
  by_cases hmissing : n.isMissing = true
  · simp [ofNode, hmissing] at hcause
  · simp [ofNode, hmissing, hslice.take?_eq]

end SyntaxError

namespace Document

/-- **A message quotes one bounded line of the offending text.**  The range of every error for text
that did not fit is that of a slice of the text of the document.  The message is `unexpected input`
just if the slice is blank.  Else it quotes a first part of what is behind the blanks at the start
of the slice, which is not empty, begins with a character that is not blank, holds no `\n` and has
at most 32 characters, and behind it an ellipsis just if the first line of the trimmed slice has
more. -/
theorem Reached.unexpected_message {text : List Char} {d : Document}
    (h : Reached Harneet.language text d) {e : SyntaxError}
    (he : e ∈ d.tree.syntaxErrors Harneet.language d.text) (hcause : e.cause = .unexpected) :
    ∃ slice, Text.IsSlice d.text e.first e.last slice
      ∧ (e.message = "unexpected input" ↔ ∀ c ∈ slice, Text.isBlank c = true)
      ∧ (¬(∀ c ∈ slice, Text.isBlank c = true) → ∃ line,
        Text.IsFirstLine (Text.trim slice) line ∧ SyntaxError.Quotable slice (line.take 32)
        ∧ e.message = "unexpected `"
          ++ String.ofList (line.take 32 ++ if 32 < line.length then ['…'] else []) ++ "`") := by
  obtain ⟨hpaid, haligned, -⟩ := h.parsed Harneet.orderly
  obtain ⟨hle, hfirst, hlast⟩ := hpaid.1.stretch_syntaxErrors haligned d.text e he
  obtain ⟨slice, hslice⟩ := Text.exists_isSlice hle hfirst hlast
  obtain ⟨enter, n, hn, rfl⟩ := Tree.exists_node_of_mem_syntaxErrors Harneet.language he
  obtain ⟨hstart, hstop, -⟩ :=
    SyntaxError.place_ofNode Harneet.language (Source.ofText d.text) n
  have hmessage := SyntaxError.message_ofNode hcause (hstart ▸ hstop ▸ hslice)
  have hquoted : ¬(∀ c ∈ slice, Text.isBlank c = true) → ∃ line,
      Text.IsFirstLine (Text.trim slice) line ∧ SyntaxError.Quotable slice (line.take 32)
      ∧ SyntaxError.unexpectedMessage slice = "unexpected `"
        ++ String.ofList (line.take 32 ++ if 32 < line.length then ['…'] else []) ++ "`" := by
    intro hblank
    have hne : Text.trim slice ≠ [] := fun hnil => hblank (Text.trim_eq_nil_iff.mp hnil)
    have hline := Text.isFirstLine_firstLine (Text.trim slice)
    refine ⟨_, hline, SyntaxError.quotable_take hne hline, ?_⟩
    rw [SyntaxError.unexpectedMessage_of_trim hne, SyntaxError.cutOff_eq, SyntaxError.maxQuoted]
  refine ⟨slice, hslice, ?_, ?_⟩
  · rw [hmessage]
    refine ⟨fun hinput => ?_, SyntaxError.unexpectedMessage_of_blank⟩
    by_contra hblank
    obtain ⟨line, -, -, hquote⟩ := hquoted hblank
    exact SyntaxError.quoted_ne_input _ (hquote.symm.trans hinput)
  · rw [hmessage]
    exact hquoted

/-- The error of two accented letters on two lines, which takes in both lines and the `\r\n`
between them. -/
def letterError : SyntaxError := ⟨.unexpected, 0, 6, ⟨0, 0⟩, "unexpected `é`"⟩

/-- Of two accented letters on two lines, which are one error, only the first line is quoted. -/
theorem Reached.unexpected_message_lines : letterError.cause = .unexpected
    ∧ letterError ∈ (Harneet.language.parse ['é', '\r', '\n', 'é']).syntaxErrors Harneet.language
      ['é', '\r', '\n', 'é']
    ∧ ∃ slice, Text.IsSlice ['é', '\r', '\n', 'é'] 0 6 slice
      ∧ (letterError.message = "unexpected input" ↔ ∀ c ∈ slice, Text.isBlank c = true)
      ∧ (¬(∀ c ∈ slice, Text.isBlank c = true) → ∃ line,
        Text.IsFirstLine (Text.trim slice) line ∧ SyntaxError.Quotable slice (line.take 32)
        ∧ letterError.message = "unexpected `"
          ++ String.ofList (line.take 32 ++ if 32 < line.length then ['…'] else []) ++ "`") := by
  have herror : letterError ∈
      (Document.ofText Harneet.language ['é', '\r', '\n', 'é']).tree.syntaxErrors Harneet.language
        ['é', '\r', '\n', 'é'] := by
    rw [tree_ofText]
    decide +kernel
  have hquotes := Reached.unexpected_message .ofText herror rfl
  rw [tree_ofText] at herror
  exact ⟨rfl, herror, hquotes⟩

end Document

end SyntaxKit
