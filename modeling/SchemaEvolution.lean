import SchemaEvolution.Backend.Scripted.Json
import SchemaEvolution.Dialect.Postgres
import SchemaEvolution.Dialect.SqlServer
import SchemaEvolution.Dialect.Sqlite
import SchemaEvolution.Json.Builder
import SchemaEvolution.Json.Migration
import SchemaEvolution.Json.Postfix
import SchemaEvolution.Main
import SchemaEvolution.Proofs.Operation.Lenient
import SchemaEvolution.Proofs.Operation.Insertion
import SchemaEvolution.Proofs.Operation.Prefix
import SchemaEvolution.Proofs.Operation.Renaming
import SchemaEvolution.Proofs.Operation.Rows
import SchemaEvolution.Proofs.Runner.FirstRuns
import SchemaEvolution.Proofs.Runner.History
import SchemaEvolution.Proofs.Runner.Isolation
import SchemaEvolution.Proofs.Runner.Mirror
import SchemaEvolution.Proofs.Runner.SideEffects
import SchemaEvolution.Proofs.Runner.Target
import SchemaEvolution.Proofs.Runner.Unwinding
import SchemaEvolution.Proofs.Runner.Upward
import SchemaEvolution.Proofs.Filter.Template
import SchemaEvolution.Proofs.Dialect.Supported
import SchemaEvolution.Proofs.Filter.LockStep
import SchemaEvolution.Proofs.Filter.Phrase
import SchemaEvolution.Proofs.Filter.Reading
import SchemaEvolution.Proofs.Select.Reading
import SchemaEvolution.Proofs.Client.Binding
import SchemaEvolution.Proofs.Postgres.Layout
import SchemaEvolution.Proofs.Postgres.Reader
import SchemaEvolution.Proofs.Postgres.Columns
import SchemaEvolution.Proofs.Postgres.Statements
import SchemaEvolution.Proofs.Postgres.Changes
import SchemaEvolution.Proofs.Postgres.Reversal
import SchemaEvolution.Proofs.Sqlite.Leniency
import SchemaEvolution.Proofs.Sqlite.Transactions
import SchemaEvolution.Proofs.Json.Operation
import SchemaEvolution.Proofs.Table.Uniqueness
import SchemaEvolution.Proofs.VersionTable.Existence
import SchemaEvolution.Proofs.Migration.Discovery
import SchemaEvolution.Proofs.Migration.VersionTime
import SchemaEvolution.Proofs.Runner.Restraint
import SchemaEvolution.Proofs.Operation.Removal
import SchemaEvolution.Proofs.Value.Integer
import SchemaEvolution.Proofs.Dialect.Quoting
import SchemaEvolution.Proofs.Sqlite.Closing
