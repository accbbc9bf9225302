import BoundSql.Numeral.Layout
import BoundSql.Numeral.Reading
import BoundSql.Text.Quoting
import BoundSql.Uuid
import BoundSql.Calendar.Printer
import BoundSql.Calendar.Reader
import BoundSql.Json.Printer
import BoundSql.Json.Reader
import BoundSql.Digest.Sha256
import BoundSql.Schema.Json
import BoundSql.Value.Json
import BoundSql.HostType
import BoundSql.Dialect.Schema
import BoundSql.Dialect.Kind
import BoundSql.Template
import BoundSql.Query.Fragment
import BoundSql.Query.Equality
import BoundSql.Query.Check
import BoundSql.Query.Select
import BoundSql.Query.Window
import BoundSql.Typed.Function
import BoundSql.Statement.Update
import BoundSql.Statement.Delete
import BoundSql.Prepared.Json
import BoundSql.Statement.Basic
import BoundSql.Batch
import BoundSql.Config
import BoundSql.Compiler.Execution
import BoundSql.Typed.Label
import BoundSql.Proofs.Spelling
import BoundSql.Proofs.LegibleQuery
import BoundSql.Proofs.Build
import BoundSql.Proofs.PlaceholderOrder
import BoundSql.Proofs.Ternary
import BoundSql.Proofs.Precedence
import BoundSql.Proofs.Grouping
import BoundSql.Proofs.Assignments
import BoundSql.Proofs.Checks
import BoundSql.Proofs.RowByRow
import BoundSql.Proofs.Tiling
import BoundSql.Proofs.MultiRow
import BoundSql.Proofs.Cutting
import BoundSql.Proofs.Parts
import BoundSql.Proofs.Fitness
import BoundSql.Proofs.Words
import BoundSql.Proofs.Spacing
import BoundSql.Proofs.SpacedStatement
import BoundSql.Proofs.Blanks
import BoundSql.Proofs.Capabilities
import BoundSql.Proofs.Relabeling
import BoundSql.Proofs.RelabeledStatement
import BoundSql.Proofs.UnseenValues
import BoundSql.Proofs.NameTokens
import BoundSql.Proofs.QuotedNames
import BoundSql.Proofs.DisplayText
import BoundSql.Proofs.Literals
import BoundSql.Proofs.KeyBytes
import BoundSql.Proofs.BatchExecution
import BoundSql.Proofs.Slots
import BoundSql.Proofs.CallOrder
import BoundSql.Proofs.ConditionFold
import BoundSql.Proofs.ScalarText
import BoundSql.Proofs.Documents
import BoundSql.Proofs.TreesReadBack
import BoundSql.Proofs.ResultRows
import BoundSql.Proofs.Counting
import BoundSql.Proofs.Heterogeneity
import BoundSql.Proofs.Upsert
import BoundSql.Proofs.TargetColumns
import BoundSql.Proofs.Lexing
import BoundSql.Proofs.Brackets
import BoundSql.Proofs.Enclosure
import BoundSql.Proofs.OperatorReading
import BoundSql.Proofs.OperatorGrouping
import BoundSql.Proofs.CountedClauses
import BoundSql.Proofs.LiveMarkers
import BoundSql.Proofs.JoinSkeleton
import BoundSql.Proofs.SortOrder
import BoundSql.Proofs.InsertionOrder
import BoundSql.Proofs.Pages
import BoundSql.Proofs.SchemaText
import BoundSql.Proofs.ReadingBack
import BoundSql.Proofs.LoggedText
