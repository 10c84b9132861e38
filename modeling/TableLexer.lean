import TableLexer.Language
import TableLexer.Pattern.Literal
import TableLexer.Summary
import TableLexer.Text.Preparation.Config
import TableLexer.Proofs.Pattern.Span
import TableLexer.Proofs.Scanner.Step
import TableLexer.Proofs.Scanner.Coverage
import TableLexer.Proofs.Pattern.Backtrack
import TableLexer.Proofs.Pattern.Ways
import TableLexer.Proofs.Pattern.Layout
import TableLexer.Proofs.Pattern.Enclosed
import TableLexer.Proofs.Scanner.Retirement
import TableLexer.Proofs.Language.Locality
import TableLexer.Proofs.Table.Bounds
import TableLexer.Proofs.Table.Rendering
import TableLexer.Proofs.Scanner.Raw
import TableLexer.Proofs.Scanner.Access
import TableLexer.Proofs.Pattern.Groups
import TableLexer.Proofs.Scanner.Labels
import TableLexer.Proofs.Scanner.Changes
import TableLexer.Proofs.Scanner.Circles
import TableLexer.Proofs.Pattern.Words
import TableLexer.Proofs.Scanner.Agreement
import TableLexer.Proofs.Language.Segmentation
import TableLexer.Proofs.Scanner.Correspondence
import TableLexer.Proofs.Table.Variants
import TableLexer.Proofs.Table.Renaming
import TableLexer.Proofs.Pattern.Closing
import TableLexer.Proofs.Table.LastRule
import TableLexer.Proofs.Language.Positions
import TableLexer.Proofs.Language.Strings
import TableLexer.Proofs.Pattern.Denotation
import TableLexer.Proofs.Pattern.Firm
import TableLexer.Proofs.Pattern.Exclusion
import TableLexer.Proofs.Language.Numerals
import TableLexer.Proofs.Language.Starts
import TableLexer.Proofs.Language.Numbers
import TableLexer.Proofs.Language.Floats
import TableLexer.Proofs.Pattern.Keywords
import TableLexer.Proofs.Language.Words
import TableLexer.Proofs.Language.Roles
import TableLexer.Proofs.Pattern.Delimited
import TableLexer.Proofs.Table.Literals
import TableLexer.Proofs.Language.SharedRules
import TableLexer.Proofs.Language.Comments
import TableLexer.Proofs.Pattern.Alphabet
import TableLexer.Proofs.Language.Lines
import TableLexer.Proofs.Scanner.Steady
import TableLexer.Proofs.Language.Errors
import TableLexer.Proofs.Text.Preparation
import TableLexer.Proofs.Scanner.Log
import TableLexer.Proofs.Text.LineEnds
import TableLexer.Proofs.Unicode.CaseFold
import TableLexer.Proofs.Language.Aliases
