import CheckedSql.Query.Catalog
import CheckedSql.Query.Connection
import CheckedSql.Observation.Session
import CheckedSql.Settings.Load
import CheckedSql.Proofs.Analysis.Columns
import CheckedSql.Proofs.Analysis.Contents
import CheckedSql.Proofs.Binding.Alignment
import CheckedSql.Proofs.Observation.Cancellation
import CheckedSql.Proofs.Observation.Coalescing
import CheckedSql.Proofs.Query.Bindable
import CheckedSql.Proofs.Query.Phases
import CheckedSql.Proofs.Result.Agreement
import CheckedSql.Proofs.Observation.Accounting
import CheckedSql.Proofs.Query.Registration
import CheckedSql.Proofs.Binding.Acceptance
import CheckedSql.Proofs.Sql.Fusion
import CheckedSql.Proofs.Binding.Omission
import CheckedSql.Proofs.Analysis.Nested
import CheckedSql.Proofs.Analysis.Flat
import CheckedSql.Proofs.Binding.Selection
import CheckedSql.Proofs.Result.Rearrangement
import CheckedSql.Proofs.Result.Laziness
import CheckedSql.Proofs.Sql.Leading
import CheckedSql.Proofs.Sql.Quotation
import CheckedSql.Proofs.Analysis.LetterCase
import CheckedSql.Proofs.Analysis.Growth
import CheckedSql.Proofs.Analysis.Targets
import CheckedSql.Proofs.Analysis.Foremost
import CheckedSql.Proofs.Observation.Watching
import CheckedSql.Proofs.Query.Execution
import CheckedSql.Proofs.Indexed.Compilation
import CheckedSql.Proofs.Settings.Written
