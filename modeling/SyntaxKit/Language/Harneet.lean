import SyntaxKit.Language.Harneet.Symbols
import SyntaxKit.Language.Harneet.Lexemes
import SyntaxKit.Language.Harneet.States1
import SyntaxKit.Language.Harneet.States2
import SyntaxKit.Language.Harneet.States3
import SyntaxKit.Language.Harneet.States4
import SyntaxKit.Language.Harneet.States5
import SyntaxKit.Language.Harneet.States6
import SyntaxKit.Language.Harneet.States7
import SyntaxKit.Language.Harneet.States8
import SyntaxKit.Language.Harneet.States9
import SyntaxKit.Language.Harneet.States10
import SyntaxKit.Language.Harneet.States11
import SyntaxKit.Language.Harneet.States12

/-!
# Harneet as a language

The language value that the rest of the library is run with: the vocabulary, the lexical automaton
and the parse automaton of the Harneet grammar put together.
-/

namespace SyntaxKit.Harneet

/-- All parse states in numeric order; `0` is the state in which errors are recovered, `1` the
state in which every parse begins. -/
def parseStates : Array StateRow :=
  (states1 ++ states2 ++ states3 ++ states4 ++ states5 ++ states6 ++ states7 ++ states8 ++ states9
    ++ states10 ++ states11 ++ states12).toArray

/-- The Harneet language. -/
def language : Language where
  symbols := symbols
  tokenCount := tokenCount
  wordToken := wordToken
  keywords := keywords
  fields := fields
  productions := productions
  lexStates := lexStates
  parseStates := parseStates

end SyntaxKit.Harneet
