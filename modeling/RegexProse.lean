import RegexProse.Bracket
import RegexProse.CommandLine.Help
import RegexProse.CommandLine.Options
import RegexProse.CommandLine.Run
import RegexProse.Component.Basic
import RegexProse.Component.Kind
import RegexProse.Component.Outline
import RegexProse.Description
import RegexProse.Explanation
import RegexProse.Group.Kind
import RegexProse.Group.Opener
import RegexProse.Group.Span
import RegexProse.Json.Basic
import RegexProse.Json.Printer
import RegexProse.Main
import RegexProse.Piece.Basic
import RegexProse.Piece.Component
import RegexProse.Piece.OfTokens
import RegexProse.Proofs.Bracket.Language
import RegexProse.Proofs.Bracket.Position
import RegexProse.Proofs.Bracket.Words
import RegexProse.Proofs.CommandLine.Input
import RegexProse.Proofs.CommandLine.Outcomes
import RegexProse.Proofs.Component.Shape
import RegexProse.Proofs.Explanation.Balance
import RegexProse.Proofs.Explanation.Binding
import RegexProse.Proofs.Explanation.Characters
import RegexProse.Proofs.Explanation.Concatenation
import RegexProse.Proofs.Explanation.Content
import RegexProse.Proofs.Explanation.Coverage
import RegexProse.Proofs.Explanation.Leading
import RegexProse.Proofs.Explanation.Sentence
import RegexProse.Proofs.Explanation.Spans
import RegexProse.Proofs.Explanation.Unbalanced
import RegexProse.Proofs.Grammar.Quantity
import RegexProse.Proofs.Grammar.Reading
import RegexProse.Proofs.Grammar.RoundTrip
import RegexProse.Proofs.Grammar.Sequence
import RegexProse.Proofs.Group.Closing
import RegexProse.Proofs.Group.Depth
import RegexProse.Proofs.Group.Matching
import RegexProse.Proofs.Group.Nesting
import RegexProse.Proofs.Group.OpenerKinds
import RegexProse.Proofs.Group.OpenerLanguage
import RegexProse.Proofs.Group.OpenerPosition
import RegexProse.Proofs.Group.Resolution
import RegexProse.Proofs.Json.Injective
import RegexProse.Proofs.Piece.Binding
import RegexProse.Proofs.Piece.Chain
import RegexProse.Proofs.Piece.Closed
import RegexProse.Proofs.Piece.Folding
import RegexProse.Proofs.Piece.Matching
import RegexProse.Proofs.Piece.Nodes
import RegexProse.Proofs.Piece.Openings
import RegexProse.Proofs.Piece.Shift
import RegexProse.Proofs.Quantifier.Bounds
import RegexProse.Proofs.Quantifier.BraceLanguage
import RegexProse.Proofs.Quantifier.BracePosition
import RegexProse.Proofs.Quantifier.Words
import RegexProse.Proofs.Report.Listing
import RegexProse.Proofs.Report.Structured
import RegexProse.Proofs.Scan.Language
import RegexProse.Proofs.Syntax.BracketText
import RegexProse.Proofs.Syntax.Legible
import RegexProse.Proofs.Syntax.Reading
import RegexProse.Proofs.Syntax.Skimming
import RegexProse.Proofs.Text.Cutting
import RegexProse.Proofs.Text.Trim
import RegexProse.Proofs.Token.Agreement
import RegexProse.Proofs.Token.Append
import RegexProse.Proofs.Token.Closing
import RegexProse.Proofs.Token.Construct
import RegexProse.Proofs.Token.Partition
import RegexProse.Proofs.Token.Position
import RegexProse.Proofs.Token.Slice
import RegexProse.Quantifier.Basic
import RegexProse.Quantifier.Brace
import RegexProse.Quantifier.Run
import RegexProse.Report.Diagnostics
import RegexProse.Report.Listing
import RegexProse.Report.Structured
import RegexProse.Samples
import RegexProse.Scan
import RegexProse.Syntax.BracketText
import RegexProse.Syntax.Cursor
import RegexProse.Syntax.Escape
import RegexProse.Syntax.Expression
import RegexProse.Syntax.Flags
import RegexProse.Syntax.Plain
import RegexProse.Syntax.PlainBracket
import RegexProse.Syntax.PlainFlags
import RegexProse.Syntax.PlainOpening
import RegexProse.Syntax.Property
import RegexProse.Syntax.Reading
import RegexProse.Syntax.Reference
import RegexProse.Syntax.Repetition
import RegexProse.Syntax.Symbol
import RegexProse.Syntax.WellFormed
import RegexProse.Syntax.Written
import RegexProse.Text.Alphanumeric
import RegexProse.Text.Basic
import RegexProse.Text.Blank
import RegexProse.Text.Decimal
import RegexProse.Text.Enclosed
import RegexProse.Text.Pad
import RegexProse.Text.Quoted
import RegexProse.Text.Ranges
import RegexProse.Text.Visible
import RegexProse.Token.Basic
import RegexProse.Token.Tokenize
import RegexProse.Validation
