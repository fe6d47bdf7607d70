import Dataflow.Graph.Order
import Dataflow.Program
import Dataflow.Proofs.Acceptance
import Dataflow.Proofs.AllOrNothing
import Dataflow.Proofs.CachingToggles
import Dataflow.Proofs.Categories
import Dataflow.Proofs.Change
import Dataflow.Proofs.Declarations
import Dataflow.Proofs.Delivery
import Dataflow.Proofs.Evaluation.Depth
import Dataflow.Proofs.Evaluation.Stages
import Dataflow.Proofs.FixedInputs
import Dataflow.Proofs.Forest
import Dataflow.Proofs.Freshness
import Dataflow.Proofs.Furnished
import Dataflow.Proofs.Graph.Arena
import Dataflow.Proofs.Graph.Counters
import Dataflow.Proofs.Graph.Notification
import Dataflow.Proofs.Graph.Order
import Dataflow.Proofs.Hierarchy
import Dataflow.Proofs.Metrics
import Dataflow.Proofs.ObjectNames
import Dataflow.Proofs.Pathnames
import Dataflow.Proofs.Receipts
import Dataflow.Proofs.Remainder
import Dataflow.Proofs.Replay
import Dataflow.Proofs.Replay.Acyclic
import Dataflow.Proofs.Replay.Consistent
import Dataflow.Proofs.Replay.Outcome
import Dataflow.Proofs.Reports
import Dataflow.Proofs.Tally
import Dataflow.Proofs.Termination
import Dataflow.Proofs.Transparency
import Dataflow.Proofs.Tree.InPlace
import Dataflow.Proofs.TypedSlots
import Dataflow.Proofs.Unharmed
import Dataflow.Proofs.Validation
import Dataflow.Session
import Dataflow.Summary

