import DocQuery.Kind
import DocQuery.Binary64.Text
import DocQuery.Text.Quoted
import DocQuery.Json.Equality
import DocQuery.Json.Text
import DocQuery.Json.Reader
import DocQuery.Json.Binding
import DocQuery.Json.Fingerprint
import DocQuery.Expr.Build
import DocQuery.Expr.Equality
import DocQuery.Expr.Fingerprint
import DocQuery.Expr.Text
import DocQuery.Doc.Binding
import DocQuery.Eval
import DocQuery.Library
import DocQuery.Proofs.Eval.Projecting
import DocQuery.Proofs.Eval.Equations
import DocQuery.Proofs.Eval.Calls
import DocQuery.Proofs.Projection
import DocQuery.Proofs.Continuation
import DocQuery.Proofs.Simulation.Binding
import DocQuery.Proofs.Simulation.Calls
import DocQuery.Proofs.Simulation.Evaluation
import DocQuery.Proofs.Members
import DocQuery.Proofs.Json.Number
import DocQuery.Proofs.Json.Exact
import DocQuery.Proofs.Json.Structure
import DocQuery.Proofs.Json.Alike
import DocQuery.Proofs.Json.Binding
import DocQuery.Proofs.Representation
import DocQuery.Proofs.Expr.Equality
import DocQuery.Proofs.Interchange
import DocQuery.Proofs.Failure
import DocQuery.Proofs.Comparator
import DocQuery.Proofs.Comparison
import DocQuery.Proofs.Binding.Equality
import DocQuery.Proofs.Doc.Conversion
import DocQuery.Proofs.Eval.Congruence
import DocQuery.Proofs.Conversion
import DocQuery.Proofs.Admission
import DocQuery.Proofs.Action
import DocQuery.Proofs.Invocation
import DocQuery.Proofs.Json.Equality
import DocQuery.Proofs.Json.Transitivity
import DocQuery.Proofs.Json.Rounded
import DocQuery.Proofs.Json.Defaults
import DocQuery.Proofs.Binding.Symmetry
import DocQuery.Proofs.Json.Fingerprint
import DocQuery.Proofs.Expr.Fingerprint
import DocQuery.Proofs.Composition
import DocQuery.Proofs.Eval.Invariant
import DocQuery.Proofs.Json.Contents
import DocQuery.Proofs.MemberOrder
import DocQuery.Proofs.Provenance
import DocQuery.Proofs.Text.Legible
import DocQuery.Proofs.Binary64.Decimal
import DocQuery.Proofs.Text.Quoted
import DocQuery.Proofs.Json.Numeral
import DocQuery.Proofs.Json.Written
import DocQuery.Proofs.Json.Text
import DocQuery.Proofs.Expr.Text
import DocQuery.Proofs.Slice
import DocQuery.Proofs.Slicing
import DocQuery.Proofs.Selection
import DocQuery.Proofs.Validation
import DocQuery.Proofs.Flattening
import DocQuery.Proofs.Indexing
import DocQuery.Proofs.Json.Object
import DocQuery.Proofs.MultiSelect
import DocQuery.Proofs.Binding.Transitivity
import DocQuery.Proofs.Mirroring
import DocQuery.Proofs.Doc.Comparison
import DocQuery.Proofs.Registry
import DocQuery.Proofs.NullDropping
import DocQuery.Proofs.Rejection
import DocQuery.Proofs.Delimited
import DocQuery.Proofs.Json.Reordered
import DocQuery.Proofs.Expr.Reordered
import DocQuery.Proofs.Eval.Parallel
import DocQuery.Proofs.Nesting
