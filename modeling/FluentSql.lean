import FluentSql.Proofs.Placeholder.Conditions
import FluentSql.Proofs.Placeholder.Spread
import FluentSql.Proofs.Predicate.Leaves
import FluentSql.Row.Serialized
import FluentSql.Script.Sessions
import FluentSql.Proofs.Placeholder.Dates
import FluentSql.Proofs.Placeholder.Builders
import FluentSql.Proofs.Placeholder.Steps
import FluentSql.Proofs.Placeholder.Calls
import FluentSql.Proofs.Placeholder.Programs
import FluentSql.Proofs.Predicate.Structure
import FluentSql.Proofs.Batch
import FluentSql.Proofs.Placeholder.Names
import FluentSql.Proofs.Placeholder.Writes
import FluentSql.Proofs.Backend.Lawful
import FluentSql.Proofs.Transaction.Body
import FluentSql.Proofs.Transaction.Outcome
import FluentSql.Proofs.Transaction.Settlement
import FluentSql.Proofs.Query.Faults
import FluentSql.Proofs.Query.Terminals
import FluentSql.Proofs.Cache.Backed
import FluentSql.Proofs.Cache.Runs
import FluentSql.Proofs.Cache.Key
import FluentSql.Proofs.Postgres.Calls
import FluentSql.Proofs.Query.Find
import FluentSql.Proofs.Query.Totals
import FluentSql.Proofs.Compound.Items
import FluentSql.Proofs.Compound.Dates
import FluentSql.Proofs.Compound.Builders
import FluentSql.Proofs.Compound.Calls
import FluentSql.Proofs.Compound.Clauses
import FluentSql.Proofs.Compound.Trees
import FluentSql.Proofs.Compound.Programs
import FluentSql.Proofs.Schema.Commands
import FluentSql.Proofs.Schema.Grouping
import FluentSql.Proofs.Schema.Fragments
import FluentSql.Proofs.Schema.Alterations
import FluentSql.Proofs.Schema.Order
import FluentSql.Proofs.Schema.Renames
import FluentSql.Proofs.Transaction.Confinement
import FluentSql.Proofs.Postgres.Sessions
import FluentSql.Proofs.Placeholder.Quoting
import FluentSql.Proofs.Schema.Verbatim
import FluentSql.Proofs.Schema.Silence
import FluentSql.Proofs.Query.Clauses
import FluentSql.Proofs.Placeholder.Agreement
import FluentSql.Proofs.Query.Batches
import FluentSql.Proofs.Query.BulkUpdate
import FluentSql.Proofs.Value.Restored
import FluentSql.Proofs.Query.Deletes
import FluentSql.Proofs.Placeholder.Numbering
import FluentSql.Proofs.Query.Pages
import FluentSql.Proofs.Placeholder.Lookups
import FluentSql.Proofs.Row.Names
import FluentSql.Proofs.Context.Race
import FluentSql.Proofs.Calendar.Order
import FluentSql.Proofs.Calendar.Truncation
import FluentSql.Proofs.Calendar.Comparison
import FluentSql.Proofs.Calendar.Translation
import FluentSql.Proofs.Calendar.Respelling
import FluentSql.Proofs.Postgres.Integers
import FluentSql.Proofs.Postgres.Instants
import FluentSql.Proofs.Schema.Quoted
import FluentSql.Proofs.Schema.Added
import FluentSql.Proofs.Schema.Pointers
import FluentSql.Proofs.Log
