import SyntaxKit.Query.Captures

/-!
# Highlighting

A query over a language also says how to colour a text: every captured node is a span of the text
with the name of the capture.  A node that several patterns capture gives several spans.
-/

namespace SyntaxKit

/-- A stretch of text with the name under which it was captured. -/
structure HighlightSpan where
  capture : String
  start : Extent
  stop : Extent
deriving DecidableEq, Repr

/-- The spans of a query in a tree of a text, in the order in which captures are handed out. -/
def Query.highlight (q : Query) (lang : Language) (t : Tree) (text : List Char) :
    List HighlightSpan :=
  (q.captures lang t text).map fun c =>
    ⟨q.captureNames.getD c.index "", c.mark.start, c.mark.stop⟩

end SyntaxKit
