import Choreography.Main
import Choreography.Proofs.Expression.Agreement
import Choreography.Proofs.Expression.Isolation
import Choreography.Proofs.Resolution.Await
import Choreography.Proofs.Stage.Conservation
import Choreography.Proofs.Stage.Departures
import Choreography.Proofs.Stage.Entry
import Choreography.Proofs.Stage.Overtaking
import Choreography.Proofs.Tool.Checks
import Choreography.Stage.Format
import Choreography.Proofs.Resolution.Due
import Choreography.Proofs.Stage.Draining
import Choreography.Proofs.Page.Actions
import Choreography.Proofs.Page.Draining
import Choreography.Proofs.Resolution.Reads
import Choreography.Proofs.Stage.Watching
import Choreography.Proofs.Page.Writes
import Choreography.Proofs.Stage.Observation
import Choreography.Proofs.Stage.Balance
import Choreography.Proofs.Stage.Bookkeeping
import Choreography.Proofs.Stage.Attribution
import Choreography.Proofs.Stage.Moments
import Choreography.Proofs.Stage.Arming
import Choreography.Proofs.Stage.Registration
import Choreography.Proofs.Expression.Acceptance
import Choreography.Proofs.Expression.Closers
import Choreography.Proofs.Expression.Composition
import Choreography.Proofs.Resolution.Loads
import Choreography.Proofs.Expression.CallTexts
import Choreography.Proofs.Expression.References
import Choreography.Proofs.Stage.Failures
import Choreography.Proofs.Stage.Handles
import Choreography.Proofs.Stage.Bystanders
import Choreography.Proofs.Expression.Figures
import Choreography.Proofs.Expression.JsonText
import Choreography.Proofs.Stage.Withheld
import Choreography.Proofs.Scan.Partition
import Choreography.Proofs.Directive.Attributes
import Choreography.Proofs.Resolution.Present
import Choreography.Proofs.Stage.Reporting
import Choreography.Proofs.Scan.Matching
import Choreography.Proofs.Modifier.Joints
import Choreography.Proofs.Resolution.Filling
