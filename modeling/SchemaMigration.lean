import SchemaMigration.Backend
import SchemaMigration.Blueprint.Basic
import SchemaMigration.Blueprint.Constraint
import SchemaMigration.Blueprint.Description
import SchemaMigration.Calendar.Date
import SchemaMigration.Calendar.Instant
import SchemaMigration.Calendar.Rfc3339
import SchemaMigration.Column.Basic
import SchemaMigration.Column.Description
import SchemaMigration.Column.Kind
import SchemaMigration.Config.Basic
import SchemaMigration.Config.Environment
import SchemaMigration.Ddl.Compile
import SchemaMigration.Ddl.Definition
import SchemaMigration.Ddl.Piece
import SchemaMigration.Ddl.Statement
import SchemaMigration.Ddl.TypeName
import SchemaMigration.Decimal.Binary64
import SchemaMigration.Decimal.Layout
import SchemaMigration.Decimal.Power
import SchemaMigration.Decimal.Shortest
import SchemaMigration.Dialect
import SchemaMigration.Dict
import SchemaMigration.Digest.Sha256
import SchemaMigration.Error
import SchemaMigration.Files.Basic
import SchemaMigration.Files.Path
import SchemaMigration.Json.Basic
import SchemaMigration.Json.Build
import SchemaMigration.Json.Reader
import SchemaMigration.Logging
import SchemaMigration.Migration.Basic
import SchemaMigration.Migration.Event
import SchemaMigration.Migration.Integrity
import SchemaMigration.Migration.Name
import SchemaMigration.Migration.Progress
import SchemaMigration.Migration.Record
import SchemaMigration.Migration.SectionFile
import SchemaMigration.Program
import SchemaMigration.Proofs.Action.Exec
import SchemaMigration.Proofs.Action.Failure
import SchemaMigration.Proofs.Action.Frame
import SchemaMigration.Proofs.Action.InStep
import SchemaMigration.Proofs.Action.Overflow
import SchemaMigration.Proofs.Calendar.Stamp
import SchemaMigration.Proofs.Ddl.Effect
import SchemaMigration.Proofs.Ddl.IndexNames
import SchemaMigration.Proofs.Ddl.IndexText
import SchemaMigration.Proofs.Ddl.Literal
import SchemaMigration.Proofs.Ddl.Names
import SchemaMigration.Proofs.Ddl.Outline
import SchemaMigration.Proofs.Ddl.Provision
import SchemaMigration.Proofs.Ddl.Reading
import SchemaMigration.Proofs.Ddl.Removal
import SchemaMigration.Proofs.Ddl.Skeleton
import SchemaMigration.Proofs.Ddl.Spacing
import SchemaMigration.Proofs.Ddl.Texts
import SchemaMigration.Proofs.Ddl.TypeExpression
import SchemaMigration.Proofs.Dict
import SchemaMigration.Proofs.Except
import SchemaMigration.Proofs.Files.Path
import SchemaMigration.Proofs.Files.Tree
import SchemaMigration.Proofs.Files.Write
import SchemaMigration.Proofs.Migration.Marker
import SchemaMigration.Proofs.Migration.Name
import SchemaMigration.Proofs.Migration.NewFile
import SchemaMigration.Proofs.Migration.Quotation
import SchemaMigration.Proofs.Migration.SectionFile
import SchemaMigration.Proofs.Runner.Alike
import SchemaMigration.Proofs.Runner.Announcement
import SchemaMigration.Proofs.Runner.Application
import SchemaMigration.Proofs.Runner.ApplicationOrder
import SchemaMigration.Proofs.Runner.Batch
import SchemaMigration.Proofs.Runner.Batchwise
import SchemaMigration.Proofs.Runner.Command
import SchemaMigration.Proofs.Runner.Completion
import SchemaMigration.Proofs.Runner.Discovery
import SchemaMigration.Proofs.Runner.Emission
import SchemaMigration.Proofs.Runner.EventGrammar
import SchemaMigration.Proofs.Runner.Exhaustion
import SchemaMigration.Proofs.Runner.Failure
import SchemaMigration.Proofs.Runner.Foretelling
import SchemaMigration.Proofs.Runner.Fresh
import SchemaMigration.Proofs.Runner.History
import SchemaMigration.Proofs.Runner.HistoryIndependence
import SchemaMigration.Proofs.Runner.Invariant
import SchemaMigration.Proofs.Runner.Inversion
import SchemaMigration.Proofs.Runner.Invocations
import SchemaMigration.Proofs.Runner.Invoke
import SchemaMigration.Proofs.Runner.Lock
import SchemaMigration.Proofs.Runner.LockDiscipline
import SchemaMigration.Proofs.Runner.Narration
import SchemaMigration.Proofs.Runner.NewFile
import SchemaMigration.Proofs.Runner.NewNames
import SchemaMigration.Proofs.Runner.Numbering
import SchemaMigration.Proofs.Runner.Pending
import SchemaMigration.Proofs.Runner.PreMutation
import SchemaMigration.Proofs.Runner.Prediction
import SchemaMigration.Proofs.Runner.Preparation
import SchemaMigration.Proofs.Runner.Pretence
import SchemaMigration.Proofs.Runner.Protocol
import SchemaMigration.Proofs.Runner.Rejection
import SchemaMigration.Proofs.Runner.Reset
import SchemaMigration.Proofs.Runner.Revert
import SchemaMigration.Proofs.Runner.Rollback
import SchemaMigration.Proofs.Runner.Run
import SchemaMigration.Proofs.Runner.Selection
import SchemaMigration.Proofs.Runner.Squash
import SchemaMigration.Proofs.Runner.Status
import SchemaMigration.Proofs.Runner.Stepwise
import SchemaMigration.Proofs.Runner.Task
import SchemaMigration.Proofs.Runner.Transaction
import SchemaMigration.Proofs.Runner.Undoing
import SchemaMigration.Proofs.Runner.Verification
import SchemaMigration.Proofs.Source.Reader
import SchemaMigration.Proofs.Source.Squash
import SchemaMigration.Proofs.Source.TypeName
import SchemaMigration.Proofs.Sql.Split
import SchemaMigration.Proofs.Store.Changes
import SchemaMigration.Proofs.Store.Exhaustion
import SchemaMigration.Proofs.Store.FreshNumber
import SchemaMigration.Proofs.Store.Identity
import SchemaMigration.Proofs.Store.InPlace
import SchemaMigration.Proofs.Store.Insertion
import SchemaMigration.Proofs.Store.Journal
import SchemaMigration.Proofs.Store.Requests
import SchemaMigration.Proofs.Store.Sequence
import SchemaMigration.Proofs.Store.Sorting
import SchemaMigration.Proofs.Store.Transaction
import SchemaMigration.Proofs.Text.Blank
import SchemaMigration.Proofs.Text.Bytes
import SchemaMigration.Proofs.Text.Lines
import SchemaMigration.Proofs.Text.LowerCase
import SchemaMigration.Proofs.Text.Words
import SchemaMigration.Proofs.Tracking.Batches
import SchemaMigration.Proofs.Tracking.BlindSpot
import SchemaMigration.Proofs.Tracking.Failure
import SchemaMigration.Proofs.Tracking.Kept
import SchemaMigration.Proofs.Tracking.Ledger
import SchemaMigration.Proofs.Tracking.Operations
import SchemaMigration.Proofs.Tracking.Order
import SchemaMigration.Proofs.Tracking.Selection
import SchemaMigration.Proofs.Tracking.Table
import SchemaMigration.Proofs.Value
import SchemaMigration.Proofs.Value.Transitivity
import SchemaMigration.Runner.Basic
import SchemaMigration.Runner.Discovery
import SchemaMigration.Runner.Execute
import SchemaMigration.Runner.Report
import SchemaMigration.Runner.Rollback
import SchemaMigration.Runner.Run
import SchemaMigration.Runner.Scaffold
import SchemaMigration.Runner.Seed
import SchemaMigration.Runner.Session
import SchemaMigration.Schema
import SchemaMigration.Sql.Definition.Basic
import SchemaMigration.Sql.Definition.Reader
import SchemaMigration.Sql.Expression.Basic
import SchemaMigration.Sql.Expression.Reader
import SchemaMigration.Sql.Keyword
import SchemaMigration.Sql.Name
import SchemaMigration.Sql.Query.Basic
import SchemaMigration.Sql.Query.Reader
import SchemaMigration.Sql.Reader
import SchemaMigration.Sql.Split
import SchemaMigration.Sql.Statement.Basic
import SchemaMigration.Sql.Statement.Reader
import SchemaMigration.Sql.Token
import SchemaMigration.Sql.TypeName.Basic
import SchemaMigration.Sql.TypeName.Reader
import SchemaMigration.Store.Basic
import SchemaMigration.Store.Query
import SchemaMigration.Store.Table
import SchemaMigration.Text.Blank
import SchemaMigration.Text.CaseProperties
import SchemaMigration.Text.DecimalDigit
import SchemaMigration.Text.Escaped
import SchemaMigration.Text.Hex
import SchemaMigration.Text.Letter
import SchemaMigration.Text.LowerCase
import SchemaMigration.Text.Pieces
import SchemaMigration.Text.Printable
import SchemaMigration.Text.Ranges
import SchemaMigration.Tracking
import SchemaMigration.Uuid
import SchemaMigration.Value.Basic
import SchemaMigration.Value.Order
import SchemaMigration.Value.Tagged
import SchemaMigration.Value.Text
