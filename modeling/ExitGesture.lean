import ExitGesture.Store.Document
import ExitGesture.Store.Rect
import ExitGesture.Store.Settings
import ExitGesture.Script.Basic
import ExitGesture.Session.SwitchBoard
import ExitGesture.Proofs.Latch
import ExitGesture.Proofs.Replay
import ExitGesture.Proofs.Soundness.EdgeDrag
import ExitGesture.Proofs.Soundness.PairHold
import ExitGesture.Proofs.Soundness.TripleTap
import ExitGesture.Proofs.Completeness.EdgeDrag
import ExitGesture.Proofs.Completeness.PairHold
import ExitGesture.Proofs.Completeness.TripleTap
import ExitGesture.Proofs.Renewal
import ExitGesture.Proofs.Restart
import ExitGesture.Proofs.Snapshot
import ExitGesture.Proofs.Pointers.Basic
import ExitGesture.Proofs.Pointers.Crowding
import ExitGesture.Proofs.Pointers.Stream
import ExitGesture.Proofs.Script
import ExitGesture.Proofs.Pointers.Loss
import ExitGesture.Proofs.Abandonment
import ExitGesture.Proofs.Protocol
import ExitGesture.Proofs.Diagram
import ExitGesture.Proofs.Polling
import ExitGesture.Proofs.Recovery
import ExitGesture.Proofs.Retelling.Invariance
import ExitGesture.Proofs.Bystander
import ExitGesture.Proofs.Expiry
import ExitGesture.Proofs.Cadence
import ExitGesture.Proofs.Repetition
import ExitGesture.Proofs.Corners
import ExitGesture.Proofs.Symmetry
import ExitGesture.Proofs.Instant
import ExitGesture.Proofs.Persistence
import ExitGesture.Proofs.Overrun
import ExitGesture.Proofs.Landing
import ExitGesture.Proofs.Findings
import ExitGesture.Proofs.Log
import ExitGesture.Proofs.Header
import ExitGesture.Proofs.Transitions
