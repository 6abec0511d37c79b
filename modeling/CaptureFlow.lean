import CaptureFlow.Main
import CaptureFlow.FileSystem
import CaptureFlow.Gate.Program
import CaptureFlow.Proofs.Gate.View
import CaptureFlow.Proofs.Gate.History
import CaptureFlow.Proofs.Gate.Conservation
import CaptureFlow.Proofs.Gate.Cycle
import CaptureFlow.Proofs.Gate.Order
import CaptureFlow.Proofs.Camera.Agreement
import CaptureFlow.Proofs.Camera.Run
import CaptureFlow.Proofs.Gate.Progress
import CaptureFlow.Proofs.Camera.Opening
import CaptureFlow.Proofs.Camera.Records
import CaptureFlow.Proofs.Camera.Selected
import CaptureFlow.Proofs.Camera.HostOrder
import CaptureFlow.Proofs.Camera.QuietListener
import CaptureFlow.Proofs.Camera.Account
import CaptureFlow.Proofs.Session.Preferred
import CaptureFlow.Proofs.Session.Flipping
import CaptureFlow.Proofs.Session.Pictures
import CaptureFlow.Proofs.Preference.StoredForm
import CaptureFlow.Proofs.Preference.Refinement
import CaptureFlow.Proofs.Preference.FiniteMap
import CaptureFlow.Proofs.Preference.Isolation
import CaptureFlow.Proofs.Gate.Reference
import CaptureFlow.Proofs.Script.Replay
import CaptureFlow.Proofs.Command.Recall
import CaptureFlow.Proofs.Command.Listing
import CaptureFlow.Proofs.Camera.Initializing
import CaptureFlow.Proofs.Camera.Switching
import CaptureFlow.Proofs.Camera.Turning
import CaptureFlow.Proofs.Geometry.Cropping
import CaptureFlow.Proofs.Geometry.Regions
import CaptureFlow.Proofs.Geometry.Distortion
import CaptureFlow.Proofs.Geometry.Rounding
import CaptureFlow.Proofs.Preference.Typed
import CaptureFlow.Proofs.Geometry.Typed
import CaptureFlow.Proofs.Script.Documents
import CaptureFlow.Proofs.Gate.Counter
import CaptureFlow.Proofs.Gate.Undeclared
import CaptureFlow.Proofs.Command.Numbers
