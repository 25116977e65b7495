import LogQuery.Main
import LogQuery.Service.Bootstrap
import LogQuery.Store.Pool
import LogQuery.Proofs.Query.Agreement
import LogQuery.Proofs.Query.Printed
import LogQuery.Proofs.Query.Slices
import LogQuery.Proofs.Query.LongestPrefix
import LogQuery.Proofs.Query.Mismatches
import LogQuery.Proofs.Query.OperatorTable
import LogQuery.Proofs.Query.ReadBack
import LogQuery.Proofs.Sql.Statements
import LogQuery.Proofs.Logs.Confined
import LogQuery.Proofs.Logs.Predicate
import LogQuery.Proofs.Service.Checked
import LogQuery.Proofs.Store.Framing
import LogQuery.Proofs.Fields.History
import LogQuery.Proofs.Service.Snapshots
import LogQuery.Proofs.Aggregation.Composition
import LogQuery.Proofs.Aggregation.Accepted
import LogQuery.Proofs.Aggregation.Aliases
import LogQuery.Proofs.Aggregation.ChartRows
import LogQuery.Proofs.Cell.Nested
import LogQuery.Proofs.Cell.RoundTrip
import LogQuery.Proofs.Logs.Shortest
import LogQuery.Proofs.Json.Fields
import LogQuery.Proofs.Store.Permits
import LogQuery.Proofs.Fields.LifeCycle
import LogQuery.Proofs.Fields.AllOrNothing
import LogQuery.Proofs.Service.KeepAlive
import LogQuery.Proofs.Logs.Conserved
import LogQuery.Proofs.Logs.Assembled
import LogQuery.Proofs.Text.ByteOrder
import LogQuery.Proofs.Logs.Listed
import LogQuery.Proofs.Fields.Offered
import LogQuery.Proofs.Time.Widths
import LogQuery.Proofs.Config.Durations
import LogQuery.Proofs.Config.NormalForm
