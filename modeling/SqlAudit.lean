import SqlAudit.Audit
import SqlAudit.Catalog.Application
import SqlAudit.Catalog.LogicalDesign
import SqlAudit.Catalog.PhysicalDesign
import SqlAudit.Catalog.Query
import SqlAudit.Catalog.Standard
import SqlAudit.Category
import SqlAudit.Check
import SqlAudit.Check.Step
import SqlAudit.CommandLine.Argument
import SqlAudit.CommandLine.Flag
import SqlAudit.CommandLine.Misuse
import SqlAudit.CommandLine.Options
import SqlAudit.CommandLine.Run
import SqlAudit.Configuration
import SqlAudit.Console.Line
import SqlAudit.Console.Listing
import SqlAudit.Console.Style
import SqlAudit.Decimal.Binary64
import SqlAudit.Decimal.Shortest
import SqlAudit.Dialect.Basic
import SqlAudit.Dialect.Choice
import SqlAudit.Dialect.Known
import SqlAudit.Files.Path
import SqlAudit.Files.Tree
import SqlAudit.Finding
import SqlAudit.Main
import SqlAudit.Pieces
import SqlAudit.Proofs.Catalog.Answers
import SqlAudit.Proofs.Catalog.Counting
import SqlAudit.Proofs.Catalog.FixedTexts
import SqlAudit.Proofs.Catalog.Gluing
import SqlAudit.Proofs.Catalog.Recognition
import SqlAudit.Proofs.Catalog.References
import SqlAudit.Proofs.Catalog.Repetitions
import SqlAudit.Proofs.Check.Accounting
import SqlAudit.Proofs.Check.Composition
import SqlAudit.Proofs.Check.Faults
import SqlAudit.Proofs.Check.Findings
import SqlAudit.Proofs.Check.LetterCase
import SqlAudit.Proofs.Check.Outcome
import SqlAudit.Proofs.Check.Places
import SqlAudit.Proofs.Check.Restriction
import SqlAudit.Proofs.Check.Selection
import SqlAudit.Proofs.Check.Steps
import SqlAudit.Proofs.Check.Totals
import SqlAudit.Proofs.Check.Trace
import SqlAudit.Proofs.CommandLine.Agreement
import SqlAudit.Proofs.CommandLine.Ending
import SqlAudit.Proofs.CommandLine.Selection
import SqlAudit.Proofs.Console.Lines
import SqlAudit.Proofs.Console.Rows
import SqlAudit.Proofs.Except
import SqlAudit.Proofs.Files.Null
import SqlAudit.Proofs.Pieces
import SqlAudit.Proofs.Regex.Acceptance
import SqlAudit.Proofs.Regex.Blindness
import SqlAudit.Proofs.Regex.Counting
import SqlAudit.Proofs.Regex.Enumeration
import SqlAudit.Proofs.Regex.Language
import SqlAudit.Proofs.Regex.Part
import SqlAudit.Proofs.Regex.Reading
import SqlAudit.Proofs.Regex.Vocabulary
import SqlAudit.Proofs.Regex.Wording
import SqlAudit.Proofs.Registry.History
import SqlAudit.Proofs.Registry.Reachable
import SqlAudit.Proofs.Registry.Selection
import SqlAudit.Proofs.Rule.AboutTable
import SqlAudit.Proofs.Rule.Sample
import SqlAudit.Proofs.Rule.Threshold
import SqlAudit.Proofs.Rule.WellFormed
import SqlAudit.Proofs.Script.Coverage
import SqlAudit.Proofs.Script.Layout
import SqlAudit.Proofs.Script.Masking
import SqlAudit.Proofs.Script.NormalForm
import SqlAudit.Proofs.Script.Placed
import SqlAudit.Proofs.Statement.TableName
import SqlAudit.Proofs.Template.Outline
import SqlAudit.Proofs.Text.Alike
import SqlAudit.Proofs.Text.Cut
import SqlAudit.Proofs.Text.LetterCase
import SqlAudit.Proofs.Text.Lowercase
import SqlAudit.Proofs.Text.Occurrence
import SqlAudit.Proofs.Text.Positions
import SqlAudit.Proofs.Text.Sigma
import SqlAudit.Proofs.Text.Squeeze
import SqlAudit.Proofs.Token.Division
import SqlAudit.Proofs.Token.Lexeme
import SqlAudit.Proofs.Token.Progress
import SqlAudit.Proofs.Value.Document
import SqlAudit.Proofs.Value.Symbols
import SqlAudit.Proofs.Value.Words
import SqlAudit.Regex.Basic
import SqlAudit.Regex.Class
import SqlAudit.Regex.Cursor
import SqlAudit.Regex.Ends
import SqlAudit.Regex.Error
import SqlAudit.Regex.Escape
import SqlAudit.Regex.Group
import SqlAudit.Regex.Lexeme
import SqlAudit.Regex.Literal
import SqlAudit.Regex.Match
import SqlAudit.Regex.Parser
import SqlAudit.Regex.Search
import SqlAudit.Regex.Switch
import SqlAudit.Registry
import SqlAudit.Registry.Request
import SqlAudit.Report
import SqlAudit.Risk
import SqlAudit.Rule.Basic
import SqlAudit.Rule.Draft
import SqlAudit.Rule.Message
import SqlAudit.Script
import SqlAudit.Statement
import SqlAudit.Tally
import SqlAudit.Template.Content
import SqlAudit.Template.Error
import SqlAudit.Template.Fill
import SqlAudit.Template.Layout
import SqlAudit.Text.Blank
import SqlAudit.Text.Capital
import SqlAudit.Text.Cased
import SqlAudit.Text.Cell
import SqlAudit.Text.CharName
import SqlAudit.Text.Cut
import SqlAudit.Text.Integer
import SqlAudit.Text.Letter
import SqlAudit.Text.Lowercase
import SqlAudit.Text.Name
import SqlAudit.Text.Newline
import SqlAudit.Text.Occurrence
import SqlAudit.Text.Printable
import SqlAudit.Text.Quoted
import SqlAudit.Text.Ranges
import SqlAudit.Text.Utf8
import SqlAudit.Text.Variant
import SqlAudit.Token.Basic
import SqlAudit.Token.Comment
import SqlAudit.Token.Literal
import SqlAudit.Token.Number
import SqlAudit.Token.Phrase
import SqlAudit.Token.Scan
import SqlAudit.Trace
import SqlAudit.Value
import SqlAudit.Value.Json
