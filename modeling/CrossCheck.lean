import CrossCheck.Alias
import CrossCheck.Backend
import CrossCheck.Backend.Script
import CrossCheck.Cache
import CrossCheck.Calendar
import CrossCheck.Calendar.Epoch
import CrossCheck.Calendar.Written
import CrossCheck.Command
import CrossCheck.Comparison
import CrossCheck.Comparison.Row
import CrossCheck.Compilation
import CrossCheck.Condition
import CrossCheck.Condition.Literal
import CrossCheck.Console.Code
import CrossCheck.Console.Color
import CrossCheck.Console.Emoji
import CrossCheck.Console.Emoji.Table
import CrossCheck.Console.Format
import CrossCheck.Console.Literal
import CrossCheck.Console.Markup
import CrossCheck.Console.Report
import CrossCheck.Console.Style
import CrossCheck.Console.Table
import CrossCheck.Console.Wrap
import CrossCheck.Database
import CrossCheck.Database.Endpoint
import CrossCheck.Database.FieldType
import CrossCheck.Database.Sample
import CrossCheck.Database.Script
import CrossCheck.Discovery
import CrossCheck.Document.Cache
import CrossCheck.Document.Database
import CrossCheck.Document.Metric
import CrossCheck.Document.Plan
import CrossCheck.Document.Report
import CrossCheck.Document.Scalar
import CrossCheck.Document.Schema
import CrossCheck.Environment
import CrossCheck.Evaluation
import CrossCheck.Export.Csv
import CrossCheck.Export.Lines
import CrossCheck.Export.Pdf
import CrossCheck.Folder
import CrossCheck.Json.Reader
import CrossCheck.Json.Writer
import CrossCheck.Log.Event
import CrossCheck.Log.Line
import CrossCheck.Main
import CrossCheck.Measurement
import CrossCheck.Metric
import CrossCheck.Named
import CrossCheck.Number
import CrossCheck.Number.Binary64
import CrossCheck.Number.Decimal
import CrossCheck.Number.Lenient
import CrossCheck.Number.Notation
import CrossCheck.Number.Reading
import CrossCheck.Number.Rounding
import CrossCheck.Number.Shortest
import CrossCheck.Path
import CrossCheck.Plan
import CrossCheck.Problem
import CrossCheck.Program
import CrossCheck.Proofs.Alias
import CrossCheck.Proofs.Call
import CrossCheck.Proofs.Comparison
import CrossCheck.Proofs.Compilation.Aliases
import CrossCheck.Proofs.Compilation.Draft
import CrossCheck.Proofs.Compilation.Readings
import CrossCheck.Proofs.Compilation.Run
import CrossCheck.Proofs.Compilation.Untyped
import CrossCheck.Proofs.Evaluation
import CrossCheck.Proofs.Evaluation.Inquiry
import CrossCheck.Proofs.Metric
import CrossCheck.Proofs.Named
import CrossCheck.Proofs.Program
import CrossCheck.Proofs.Reconciliation
import CrossCheck.Proofs.Resolution
import CrossCheck.Proofs.Resolution.Fitness
import CrossCheck.Proofs.Sequence
import CrossCheck.Proofs.Service
import CrossCheck.Proofs.Text
import CrossCheck.Proofs.Text.Trim
import CrossCheck.Proofs.Token
import CrossCheck.Proofs.Token.Grammar
import CrossCheck.Proofs.Token.RoundTrip
import CrossCheck.Proofs.Validation
import CrossCheck.Query.DataType
import CrossCheck.Query.DateLiteral
import CrossCheck.Query.Function
import CrossCheck.Query.Keyword
import CrossCheck.Query.Layout
import CrossCheck.Query.Level
import CrossCheck.Query.Lexeme
import CrossCheck.Query.Lexeme.Lexer
import CrossCheck.Query.MomentFormat
import CrossCheck.Query.Reading
import CrossCheck.Query.Reading.Name
import CrossCheck.Query.Spelling
import CrossCheck.Query.Statement
import CrossCheck.Query.Statement.Reader
import CrossCheck.Query.Statement.Writer
import CrossCheck.Reconciliation
import CrossCheck.Registry
import CrossCheck.Report
import CrossCheck.Resolution
import CrossCheck.Schema
import CrossCheck.Service
import CrossCheck.Settings
import CrossCheck.Settings.Assignments
import CrossCheck.Settings.Reference
import CrossCheck.Text.Base64
import CrossCheck.Text.Basic
import CrossCheck.Text.Blank
import CrossCheck.Text.Case
import CrossCheck.Text.Case.Context
import CrossCheck.Text.Case.Table
import CrossCheck.Text.Digit
import CrossCheck.Text.Half
import CrossCheck.Text.Quoted
import CrossCheck.Text.Ranges
import CrossCheck.Text.Unseen
import CrossCheck.Text.Width
import CrossCheck.Text.Width.Table
import CrossCheck.Text.Word
import CrossCheck.Token
import CrossCheck.Value
import CrossCheck.Yaml.Block
import CrossCheck.Yaml.Cursor
import CrossCheck.Yaml.Form
import CrossCheck.Yaml.Graph
import CrossCheck.Yaml.Handle
import CrossCheck.Yaml.Node
import CrossCheck.Yaml.Property
import CrossCheck.Yaml.Reader
import CrossCheck.Yaml.Scalar
import CrossCheck.Yaml.Tag
import CrossCheck.Yaml.Token
import CrossCheck.Yaml.Token.Lexer
import CrossCheck.Yaml.Tree
import CrossCheck.Yaml.Written
import CrossCheck.Proofs.Compilation.Builder
import CrossCheck.Proofs.Query.Literal
import CrossCheck.Proofs.Number.Nearest
import CrossCheck.Proofs.Number.Shortest
import CrossCheck.Proofs.Json.Number
import CrossCheck.Proofs.Json.RoundTrip
import CrossCheck.Proofs.Cache
import CrossCheck.Proofs.Discovery
import CrossCheck.Proofs.Discovery.Isolation
import CrossCheck.Proofs.Json.Storable
import CrossCheck.Proofs.Discovery.Recovery
import CrossCheck.Proofs.Discovery.Caller
import CrossCheck.Proofs.Discovery.Interleaving
import CrossCheck.Proofs.Service.Planning
import CrossCheck.Proofs.Export.Pdf
import CrossCheck.Proofs.Condition.Junction
import CrossCheck.Proofs.Condition.Date
import CrossCheck.Proofs.Compilation.Extension
import CrossCheck.Proofs.Resolution.Spelling
import CrossCheck.Proofs.Query.Instant
import CrossCheck.Proofs.Reconciliation.Equivalence
import CrossCheck.Proofs.Number.Range
import CrossCheck.Proofs.Measurement
import CrossCheck.Proofs.Comparison.Row
import CrossCheck.Proofs.Comparison.Mirror
import CrossCheck.Proofs.Comparison.Typed
import CrossCheck.Proofs.Export.Page
import CrossCheck.Proofs.Export.Columns
import CrossCheck.Proofs.Export.Csv
import CrossCheck.Proofs.Token.Joined
import CrossCheck.Proofs.Alias.Search
import CrossCheck.Proofs.Database.Nested
