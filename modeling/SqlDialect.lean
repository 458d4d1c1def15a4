import SqlDialect.Main
import SqlDialect.Probe.DatabaseTime
import SqlDialect.Proofs.Store.History
import SqlDialect.Proofs.Driver.Timestamp
import SqlDialect.Proofs.Transport.Options
import SqlDialect.Proofs.Connection.Credentials
import SqlDialect.Proofs.Connection.Form
import SqlDialect.Proofs.Store.Lookup
import SqlDialect.Proofs.Connection.Stored
import SqlDialect.Proofs.Store.Rewriting
import SqlDialect.Proofs.Store.Written
import SqlDialect.Proofs.Connection.Masked
import SqlDialect.Proofs.CommandLine.Secrets
import SqlDialect.Proofs.CommandLine.Described
import SqlDialect.Proofs.CommandLine.InPlace
import SqlDialect.Proofs.Registry.History
import SqlDialect.Proofs.Registry.Failing
import SqlDialect.Proofs.Probe.Agreement
import SqlDialect.Proofs.Diagnosis.Matching
import SqlDialect.Proofs.Transport.Failures
import SqlDialect.Proofs.Probe.Diagnosis
import SqlDialect.Proofs.Driver.WeekKey
import SqlDialect.Proofs.Diagnosis.Cases
import SqlDialect.Proofs.Diagnosis.Denied
import SqlDialect.Proofs.Driver.ColumnType
import SqlDialect.Proofs.Store.Exact
import SqlDialect.Proofs.Connection.Flat
import SqlDialect.Proofs.Driver.Quoting
import SqlDialect.Proofs.Transport.Release
import SqlDialect.Proofs.Probe.DatabaseTime
import SqlDialect.Proofs.Driver.Interval
import SqlDialect.Proofs.CommandLine.Expressions
import SqlDialect.Proofs.Connection.Seams
