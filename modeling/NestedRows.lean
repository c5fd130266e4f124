import NestedRows.Main
import NestedRows.Session.Feeding
import NestedRows.Session.Watching
import NestedRows.Settings.Reader
import NestedRows.Proofs.Query.Scoping
import NestedRows.Proofs.Query.Meaning
import NestedRows.Proofs.Live.Pacing
import NestedRows.Proofs.Query.WellTyped
import NestedRows.Proofs.Query.Touched
import NestedRows.Proofs.Decimal.Notation
import NestedRows.Proofs.Sql.Reading
import NestedRows.Proofs.Selection.Tokens
import NestedRows.Proofs.Selection.Grammar
import NestedRows.Proofs.Front.Rebuild
import NestedRows.Proofs.Front.Pinning
import NestedRows.Proofs.Schema.Order
import NestedRows.Proofs.TypeGraph.Projection
import NestedRows.Proofs.Query.Fetching
import NestedRows.Proofs.Query.Shape
import NestedRows.Proofs.Live.Intake
import NestedRows.Proofs.Live.Registry
import NestedRows.Proofs.Settings.Reporting
import NestedRows.Proofs.Front.Contention
import NestedRows.Proofs.Schema.Failure
import NestedRows.Proofs.Schema.Bracketing
import NestedRows.Proofs.Live.Refetch
import NestedRows.Proofs.Json.Records
import NestedRows.Proofs.Sql.Conditions
import NestedRows.Proofs.Query.Nesting
import NestedRows.Proofs.Query.Markers
import NestedRows.Proofs.Settings.Expansion
import NestedRows.Proofs.Schema.NativeName
import NestedRows.Proofs.Query.KeyText
