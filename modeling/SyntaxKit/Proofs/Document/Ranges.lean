import Mathlib.Data.List.Forall2
import SyntaxKit.Proofs.CommandLine.Highlight
import SyntaxKit.Proofs.Document.Reached
import SyntaxKit.Proofs.Query.Captures

/-!
# The ranges of a document can be sliced

Every range that is reported for a document, be it of a syntax error or of a highlighted span, lies within
the text and between its characters, however the document was reached.  Hence highlighting a file
cuts the text only where that is possible, and prints one line for each span
(`Document.Reached.sliceable`).
-/

namespace SyntaxKit

namespace Utf8

theorem IsBoundary.le {bytes : List UInt8} {offset : Nat} (h : IsBoundary bytes offset) :
    offset ≤ bytes.length := by
  rcases h with rfl | ⟨byte, hbyte, -⟩
  · exact Nat.le_refl _
  · exact Nat.le_of_lt (List.getElem?_eq_some_iff.mp hbyte).choose

end Utf8

/-- The bytes of a text from one offset to another can be sliced out of it: they are in order, within the
text, and between its characters. -/
structure Text.Sliceable (text : List Char) (first last : Nat) : Prop where
  ordered : first ≤ last
  within : last ≤ (Utf8.encode text).length
  first : Utf8.IsBoundary (Utf8.encode text) first
  last : Utf8.IsBoundary (Utf8.encode text) last

namespace Document

variable {lang : Language}

/-- To open a file is to read it, to decode what it holds, and to parse that. -/
theorem openFile_eq (p : Path) :
    Sources.openFile lang p = Task.andThen (Sources.readBytes p) fun bytes =>
      match Utf8.decode? bytes with
      | none => Task.fail (.file p .invalidDocument)
      | some text => Task.andThen (Task.record ⟨.debug, "harneet::document", "Parsed document",
          [("path", toString p), ("bytes", toString bytes.length)]⟩) fun _ =>
            Task.done ⟨p, Document.ofFile lang p text⟩ := rfl

/-- A file that is opened is the document of some text. -/
theorem exists_of_openFile {p : Path} {s : Surroundings} {w w' : World} {file : Sources.OpenFile}
    (h : Sources.openFile lang p s w = (.ok file, w')) :
    ∃ text, file.document = Document.ofFile lang p text := by
  rw [openFile_eq, Task.andThen] at h
  generalize Sources.readBytes p s w = read at h
  obtain ⟨e | bytes, w₁⟩ := read
  · simp at h
  · simp only at h
    cases hdecode : Utf8.decode? bytes with
    | none =>
      rw [hdecode] at h
      simp [Task.fail] at h
    | some text =>
      rw [hdecode] at h
      simp only [Task.andThen, Task.record, Task.note, Task.done, Prod.mk.injEq,
        Except.ok.injEq] at h
      exact ⟨text, by rw [← h.1]⟩

/-- **Highlighting a file prints one line for each span**, if the spans of its document can be sliced out
of its text. -/
theorem highlightFile_eq {q : Query} {source : List Char}
    (hq : Query.compile lang source = .ok q) {p : Path} {s : Surroundings} {w w' : World}
    {file : Sources.OpenFile} (hopen : Sources.openFile lang p s w = (.ok file, w'))
    (hspans : ∀ span ∈ q.highlight lang file.document.tree file.document.text,
      Text.Sliceable file.document.text span.start.bytes span.stop.bytes) :
    ∃ lines : List (List Char), CommandLine.highlightFile lang q p s w
        = (.ok ⟨String.ofList lines.flatten, true⟩, w')
      ∧ List.Forall₂ (CommandLine.IsLineOf file.document.text)
        (q.highlight lang file.document.tree file.document.text) lines := by
  generalize hlisted : q.highlight lang file.document.tree file.document.text = spans at hspans
  let shown := fun span => (CommandLine.spanLine (Source.ofText file.document.text) span).toList
  refine ⟨spans.map shown, ?_, ?_⟩
  · show Task.andThen (Sources.openFile lang p) _ s w = _
    rw [Task.andThen, hopen]
    simp only [hlisted]
    have houtput : String.join (spans.map
        (CommandLine.spanLine (Source.ofText file.document.text)))
          = String.ofList (spans.map shown).flatten := by
      simp [shown, ← String.toList_inj, List.flatMap, Function.comp_def]
    rw [← houtput]
    rfl
  · rw [List.forall₂_map_right_iff, List.forall₂_same]
    intro span hspan
    have hslice := hspans span hspan
    refine CommandLine.isLineOf_spanLine hslice.ordered hslice.first hslice.last ?_
    rw [← hlisted] at hspan
    obtain ⟨c, -, rfl⟩ := List.mem_map.mp hspan
    exact Query.isName_captureNames hq c.index

theorem highlightFile_eq_error {q : Query} {p : Path} {s : Surroundings} {w w' : World}
    {e : Failure} (hopen : Sources.openFile lang p s w = (.error e, w')) :
    CommandLine.highlightFile lang q p s w = (.error e, w') := by
  show Task.andThen (Sources.openFile lang p) _ s w = _
  rw [Task.andThen, hopen]

/-! ## Ranges of a document -/

/-- The spans that a query highlights in a document can be sliced out of its text. -/
theorem Reached.sliceable_highlight (hlang : lang.Orderly) {text : List Char} {d : Document}
    (h : Reached lang text d) (q : Query) :
    ∀ s ∈ q.highlight lang d.tree d.text, Text.Sliceable d.text s.start.bytes s.stop.bytes := by
  intro s hs
  obtain ⟨hpaid, haligned, -⟩ := h.parsed hlang
  obtain ⟨hle, hstart, hstop⟩ := hpaid.1.stretch_highlight haligned q d.text s hs
  exact ⟨hle, hstop.le, hstart, hstop⟩

/-- **Reported ranges can always be used to slice the text.**  For a document reached by edits from any
text, every error that is reported and every span that is highlighted, whatever the query, begins and
ends between characters of the text as it now is.  Hence highlighting a file always slices its text where
that is possible, and prints exactly one line for each span. -/
theorem Reached.sliceable {text : List Char} {d : Document}
    (h : Reached Harneet.language text d) :
    (∀ e ∈ d.tree.syntaxErrors Harneet.language d.text, Text.Sliceable d.text e.first e.last)
      ∧ ∀ source q, Query.compile Harneet.language source = .ok q →
        (∀ s ∈ q.highlight Harneet.language d.tree d.text,
          Text.Sliceable d.text s.start.bytes s.stop.bytes)
        ∧ ∀ p surroundings world,
          match Sources.openFile Harneet.language p surroundings world with
          | (.error e, w) =>
            CommandLine.perform Harneet.language (fun _ => q) (.highlight p) surroundings world
              = (.error e, w)
          | (.ok file, w) => ∃ lines : List (List Char),
            CommandLine.perform Harneet.language (fun _ => q) (.highlight p) surroundings world
                = (.ok ⟨String.ofList lines.flatten, true⟩, w)
              ∧ List.Forall₂ (CommandLine.IsLineOf file.document.text)
                (q.highlight Harneet.language file.document.tree file.document.text) lines := by
  refine ⟨fun e he => ?_, fun source q hq =>
    ⟨h.sliceable_highlight Harneet.orderly q, fun p surroundings world => ?_⟩⟩
  · obtain ⟨hpaid, haligned, -⟩ := h.parsed Harneet.orderly
    obtain ⟨hle, hfirst, hlast⟩ := hpaid.1.stretch_syntaxErrors haligned d.text e he
    exact ⟨hle, hlast.le, hfirst, hlast⟩
  · show match Sources.openFile Harneet.language p surroundings world with
      | (.error e, w) =>
        CommandLine.highlightFile Harneet.language q p surroundings world = (.error e, w)
      | (.ok file, w) => _
    generalize hopen : Sources.openFile Harneet.language p surroundings world = opened
    obtain ⟨e | file, w⟩ := opened
    · exact highlightFile_eq_error hopen
    · obtain ⟨content, hfile⟩ := exists_of_openFile hopen
      refine highlightFile_eq hq hopen ?_
      rw [hfile]
      exact (Reached.ofFile p).sliceable_highlight Harneet.orderly q

/-- The document of `"é(` in which the parenthesis has been replaced by a letter, and a query for its
identifiers. -/
theorem Reached.sliceable_retyped : ∃ d q,
    Reached Harneet.language ['"', 'é', '('] d ∧ d.text = ['"', 'é', 'x']
    ∧ Query.compile Harneet.language "(identifier) @name".toList = .ok q
    ∧ (∀ e ∈ d.tree.syntaxErrors Harneet.language ['"', 'é', 'x'],
        Text.Sliceable ['"', 'é', 'x'] e.first e.last)
    ∧ ∀ s ∈ q.highlight Harneet.language d.tree ['"', 'é', 'x'],
        Text.Sliceable ['"', 'é', 'x'] s.start.bytes s.stop.bytes := by
  obtain ⟨d, hedit, htext, -⟩ := exists_edit_append Harneet.language
    (show (Document.ofText Harneet.language ['"', 'é', '(']).text = ['"', 'é'] ++ ['('] ++ []
      from rfl) ['x']
  have hreached : Reached Harneet.language ['"', 'é', '('] d := by
    have hsteps := (@Reached.ofText Harneet.language ['"', 'é', '(']).edit
      (Text.byteLength ['"', 'é']) (Text.byteLength (['"', 'é'] ++ ['('])) ['x']
    rw [hedit] at hsteps
    exact hsteps
  obtain ⟨q, hq⟩ : ∃ q,
      Query.compile Harneet.language "(identifier) @name".toList = .ok q := by
    have hcompiles : (Query.compile Harneet.language "(identifier) @name".toList).isOk = true := by
      decide +kernel
    cases hresult : Query.compile Harneet.language "(identifier) @name".toList with
    | ok q => exact ⟨q, rfl⟩
    | error e =>
      rw [hresult] at hcompiles
      cases hcompiles
  have hspec := Reached.sliceable hreached
  rw [show d.text = ['"', 'é', 'x'] from htext] at hspec
  exact ⟨d, q, hreached, htext, hq, hspec.1, (hspec.2 _ q hq).1⟩

end Document

end SyntaxKit
