import SyntaxKit.Main
import SyntaxKit.Shell.Tool
import SyntaxKit.Proofs.Diagnostics.Problems
import SyntaxKit.Proofs.Document
import SyntaxKit.Proofs.Document.Ranges
import SyntaxKit.Proofs.Language.Lossless
import SyntaxKit.Proofs.Lexer.Comment
import SyntaxKit.Proofs.Lexer.Lexeme
import SyntaxKit.Proofs.Parse.Spelled
import SyntaxKit.Proofs.Tree.Cover
import SyntaxKit.Proofs.Parse.Kept
import SyntaxKit.Grammar.Basic
import SyntaxKit.Grammar.Harneet
import SyntaxKit.Proofs.Grammar.Matching
import SyntaxKit.Proofs.Language.Generated
import SyntaxKit.Proofs.Parse.Beside
import SyntaxKit.Proofs.Tree.Derived
import SyntaxKit.Proofs.Parse.Derived
import SyntaxKit.Proofs.Grammar.Residual
import SyntaxKit.Proofs.Language.Lexed
import SyntaxKit.Proofs.Tree.Worded
import SyntaxKit.Proofs.Tree.Fitting
import SyntaxKit.Proofs.Tree.Program
import SyntaxKit.Proofs.Parse.Sound
import SyntaxKit.Proofs.Parse.Precedence
import SyntaxKit.Proofs.Query.Singles
import SyntaxKit.Proofs.Query.Nodes
import SyntaxKit.Proofs.Tree.Leaves
import SyntaxKit.Proofs.Text.Chunks
import SyntaxKit.Proofs.Document.Points
import SyntaxKit.Proofs.Document.Walk
import SyntaxKit.Proofs.Query.Derivations
import SyntaxKit.Proofs.Query.Feasible
import SyntaxKit.Proofs.Query.Analysed
import SyntaxKit.Proofs.Query.Samples
import SyntaxKit.Proofs.Query.Coverage
import SyntaxKit.Proofs.Deployment.Again
import SyntaxKit.Proofs.Deployment.Clean
import SyntaxKit.Proofs.Report.Position
import SyntaxKit.Proofs.CommandLine.Check
import SyntaxKit.Proofs.Sources.Collect
import SyntaxKit.Proofs.Sources.Threshold
import SyntaxKit.Proofs.Diagnostics.Span
import SyntaxKit.Proofs.Diagnostics.Message
import SyntaxKit.Proofs.Text.Breaks
