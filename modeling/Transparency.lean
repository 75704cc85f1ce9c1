import Transparency.Device.Either
import Transparency.Proofs.Fragment.Consistency
import Transparency.Proofs.Scene.Recovery
import Transparency.Scene
import Transparency.Settings.Document
import Transparency.Settings.Environment
import Transparency.Text.Interner
import Transparency.Proofs.Device.Limited
import Transparency.Proofs.Fragment.Current
import Transparency.Proofs.Device.Exact
import Transparency.Proofs.Scene.CurrentBuffers
import Transparency.Proofs.Fragment.Exact
import Transparency.Proofs.Fragment.Maximum
import Transparency.Proofs.Device.Requests
import Transparency.Proofs.Device.Refinement
import Transparency.Proofs.Device.Footprint
import Transparency.Proofs.Scene.Deeds
import Transparency.Proofs.Task.Entries
import Transparency.Proofs.Scene.FrameTargets
import Transparency.Proofs.Scene.Dormant
import Transparency.Proofs.Task.Unlogged
import Transparency.Proofs.Scene.Insulation
import Transparency.Proofs.Device.Pipelines
import Transparency.Proofs.Graph.Dirty
import Transparency.Proofs.Scene.Phases
import Transparency.Proofs.Device.Steady
import Transparency.Proofs.Fragment.Again
import Transparency.Proofs.Scene.PreparedTwice
import Transparency.Proofs.Fragment.Sharing
import Transparency.Proofs.Scene.Coverage
import Transparency.Proofs.Scene.WriteSets
import Transparency.Proofs.Device.Lifetimes
import Transparency.Proofs.Device.Replay
import Transparency.Proofs.Template.Reading
import Transparency.Proofs.Template.Declarations
import Transparency.Proofs.Template.Layouts
import Transparency.Proofs.Frame.Warnings
import Transparency.Proofs.Task.Fallback
import Transparency.Proofs.Template.Contexts
import Transparency.Proofs.Json.Grammar
import Transparency.Proofs.Json.Scanning
import Transparency.Proofs.Json.Skipping
import Transparency.Proofs.Settings.Documents
import Transparency.Proofs.Device.ByteLimits
import Transparency.Proofs.Fragment.Arithmetic
import Transparency.Proofs.Template.Names
import Transparency.Proofs.Fragment.Labelled
import Transparency.Proofs.Task.Recorded
