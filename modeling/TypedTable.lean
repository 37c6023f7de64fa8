import TypedTable.Session
import TypedTable.Settings
import TypedTable.Wire.Server
import TypedTable.Proofs.Statement.Rewriting
import TypedTable.Proofs.Conditions
import TypedTable.Proofs.Closed
import TypedTable.Proofs.BackFill.Execution
import TypedTable.Proofs.Targets
import TypedTable.Proofs.Literals.Build
import TypedTable.Proofs.Upsert.Execution
import TypedTable.Proofs.Reader.Filters
import TypedTable.Proofs.Conversion
import TypedTable.Proofs.Upsert.Distinct
import TypedTable.Proofs.Session.WellTyped
import TypedTable.Proofs.Scope
import TypedTable.Proofs.Rendering.Tuples
import TypedTable.Proofs.RandomRows
import TypedTable.Proofs.Splice.Fragment
import TypedTable.Proofs.Precision
import TypedTable.Proofs.NumericText
import TypedTable.Proofs.Selection
import TypedTable.Proofs.Reversible
import TypedTable.Proofs.Wire.RoundTrip
import TypedTable.Proofs.Hydration
import TypedTable.Proofs.CallOrder
import TypedTable.Proofs.RowValidation
import TypedTable.Proofs.Calendar.FormOrder
import TypedTable.Proofs.Declaration.Reader
import TypedTable.Proofs.Declaration.Text
import TypedTable.Proofs.Declaration.Constraint
import TypedTable.Proofs.Draw.Scalar
import TypedTable.Proofs.Draw.Value
import TypedTable.Proofs.Rendering.Identity
import TypedTable.Proofs.Schema.Declared
import TypedTable.Proofs.Access.Session
