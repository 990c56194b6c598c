import DataContract.Text.Blank
import DataContract.Text.Case
import DataContract.Text.Digit
import DataContract.Text.Printable
import DataContract.Text.Word
import DataContract.Text.Quoted
import DataContract.Number.Shortest
import DataContract.Number.Decimal
import DataContract.Calendar.Reading
import DataContract.Value.Display
import DataContract.Value.Equality
import DataContract.Pattern.Basic
import DataContract.Text.Consume
import DataContract.Pattern.Reading
import DataContract.Predicate.Registry
import DataContract.Schema.Constraint
import DataContract.Casting.Custom
import DataContract.Predicate.Custom
import DataContract.Spec.Compile
import DataContract.Contract
import DataContract.Spec.Builder
import DataContract.SchemaFile.Load
import DataContract.Document.Discovery
import DataContract.Proofs.Attempt
import DataContract.Proofs.Schema.Node
import DataContract.Proofs.Schema.Report
import DataContract.Proofs.Schema.Inhabitance
import DataContract.Proofs.Failure.Node
import DataContract.Proofs.Spec.Compilation
import DataContract.Proofs.Value.Path
import DataContract.Proofs.Schema.Constraining
import DataContract.Proofs.Schema.ErrorPath
import DataContract.Proofs.Schema.Renaming
import DataContract.Proofs.SchemaFile.Predicates
import DataContract.Proofs.Report.Order
import DataContract.Proofs.Report.Listing
import DataContract.Proofs.Report.Distinct
import DataContract.Proofs.Report.Rearranged
import DataContract.Proofs.Contract.Agreement
import DataContract.Proofs.Schema.KeyStyle
import DataContract.Proofs.Value.Lookup
import DataContract.Proofs.Schema.Entries
import DataContract.Proofs.Schema.FixedPoint
import DataContract.Proofs.Schema.Respelling
import DataContract.Proofs.Schema.WireName
import DataContract.Proofs.Schema.Rearrangement
import DataContract.Proofs.Schema.Placement
import DataContract.Proofs.Spec.Position
import DataContract.Proofs.Spec.Congruence
import DataContract.Proofs.Spec.Registered
import DataContract.Proofs.Spec.Transparency
import DataContract.Proofs.Fault
import DataContract.Proofs.Spec.Options
import DataContract.Proofs.Spec.Writing
import DataContract.Proofs.Value.Comparison
import DataContract.Proofs.Spec.Refusal
import DataContract.Proofs.Predicate.Blame
import DataContract.Proofs.Casting.Blame
import DataContract.Proofs.Schema.Blame
import DataContract.Proofs.Spec.Provenance
import DataContract.Proofs.Spec.Blame
import DataContract.Proofs.Schema.Conjunction
import DataContract.Proofs.Schema.Replacement
import DataContract.Proofs.Spec.Context
import DataContract.Proofs.Spec.Embedding
import DataContract.Proofs.Schema.Reporting
import DataContract.Proofs.Schema.Recognition
import DataContract.Proofs.Rule
import DataContract.Proofs.Report.Wording
import DataContract.Proofs.Contract.Rendering
import DataContract.Workbench
import DataContract.Proofs.Spec.Parallel
import DataContract.Proofs.Spec.Scoping
import DataContract.Proofs.Workbench.Run
import DataContract.Proofs.Workbench.Order
import DataContract.Proofs.SchemaFile.Description
import DataContract.Proofs.SchemaFile.Form
import DataContract.Proofs.SchemaFile.Refusal
import DataContract.Proofs.SchemaFile.Loading
import DataContract.Proofs.Report.Nesting
import DataContract.Proofs.Schema.Alternatives
import DataContract.Proofs.Spec.Alternatives
import DataContract.Proofs.Schema.Mismatch
import DataContract.Proofs.Report.Union
import DataContract.Proofs.Spec.NamedUnion
import DataContract.Proofs.Spec.DefinitionName
import DataContract.Proofs.Failure.Leaf
import DataContract.Proofs.Schema.Violation
import DataContract.Proofs.Casting.Kind
import DataContract.Proofs.Number.Numeral
import DataContract.Proofs.Number.Decimal
import DataContract.Proofs.Calendar.Text
import DataContract.Proofs.Casting.Text
import DataContract.Proofs.Number.Rounding
import DataContract.Proofs.Number.Binary64
import DataContract.Proofs.Number.Product
import DataContract.Proofs.Calendar.Position
import DataContract.Proofs.Casting.Moment
import DataContract.Proofs.Failure.Site
import DataContract.Proofs.Report.Leaf
import DataContract.Proofs.Report.Sorting
import DataContract.Proofs.Spec.KeyPath
import DataContract.Proofs.Value.Inquiry
import DataContract.Proofs.Value.Search
import DataContract.Proofs.Predicate.Totality
import DataContract.Proofs.Schema.InTurn
import DataContract.Proofs.Schema.Appending
import DataContract.Proofs.Value.Ordering
import DataContract.Proofs.Predicate.Opposites
import DataContract.Proofs.Value.Name
import DataContract.Proofs.Schema.Capture
import DataContract.Proofs.Schema.ShownConstraint
import DataContract.Proofs.Rule.Verdict
import DataContract.Proofs.Number.Quantity
import DataContract.Proofs.Value.Standing
import DataContract.Proofs.Value.Equivalence
import DataContract.Proofs.Rule.Guard
import DataContract.Proofs.SchemaFile.Structure
import DataContract.Proofs.SchemaFile.Numbering
import DataContract.Proofs.SchemaFile.Keys
import DataContract.Proofs.Failure.Address
import DataContract.Proofs.Schema.Joint
