import Reconciler.Document.Printer
import Reconciler.Document.Reader
import Reconciler.Host.Session
import Reconciler.Pipeline
import Reconciler.Resource.Dynamic
import Reconciler.Proofs.Success
import Reconciler.Proofs.Plan.Update
import Reconciler.Proofs.Task.Execution
import Reconciler.Proofs.Run.Aggregation
import Reconciler.Proofs.Document.Merge
import Reconciler.Proofs.Document.WellFormed
import Reconciler.Proofs.Entries
import Reconciler.Proofs.Wire.Reading
import Reconciler.Proofs.Plan.Template
import Reconciler.Proofs.Task.Contribution
import Reconciler.Proofs.Plan.Marker
import Reconciler.Proofs.Run.Ownership
import Reconciler.Proofs.Document.Pointwise
import Reconciler.Proofs.Document.Convergence
import Reconciler.Proofs.Plan.Recognition
import Reconciler.Proofs.Document.Patch
import Reconciler.Proofs.Task.Listing
import Reconciler.Proofs.Host.Listing
import Reconciler.Proofs.Host.Report
import Reconciler.Proofs.Timestamp
import Reconciler.Proofs.Wire.Settling
import Reconciler.Proofs.Resource.Settling
import Reconciler.Proofs.Plan.Repetition
import Reconciler.Proofs.Host.Attachment
import Reconciler.Proofs.Selector.Order
import Reconciler.Proofs.Plan.Order
import Reconciler.Proofs.Task.Order
import Reconciler.Proofs.Run.Order
import Reconciler.Proofs.Run.Isolation
import Reconciler.Proofs.Resource.Access
import Reconciler.Proofs.Selector.Matching
import Reconciler.Proofs.Path.Grammar
import Reconciler.Proofs.Task.Addresses
import Reconciler.Proofs.Wire.RoundTrip
import Reconciler.Proofs.Wire.Types
import Reconciler.Proofs.Resource.Equality
import Reconciler.Proofs.Resource.NormalForm
import Reconciler.Proofs.Path.Writing
import Reconciler.Proofs.Resource.Writing
import Reconciler.Proofs.Selector.Failure
import Reconciler.Proofs.Plan.Failure
import Reconciler.Proofs.Task.Validation
import Reconciler.Proofs.Task.Consistency
import Reconciler.Proofs.Task.Failure
import Reconciler.Proofs.Document.Difference
import Reconciler.Proofs.Resource.Difference
import Reconciler.Proofs.Plan.Difference
import Reconciler.Proofs.Plan.Partition
import Reconciler.Proofs.Plan.Replicas
import Reconciler.Proofs.Plan.Outcome
import Reconciler.Proofs.Resource.Frame
import Reconciler.Proofs.Plan.Frame
import Reconciler.Proofs.Selector.Scan
import Reconciler.Proofs.Selector.Verdict
import Reconciler.Proofs.Path.Lens
import Reconciler.Proofs.Path.Failure
import Reconciler.Proofs.Resource.Failure
import Reconciler.Proofs.Document.Comparison
import Reconciler.Proofs.Settings
import Reconciler.Proofs.Task.Limit
import Reconciler.Proofs.Host.Session
