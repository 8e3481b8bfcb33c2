import Annotator.Main
import Annotator.Proofs.Action.Reserved
import Annotator.Proofs.Action.WireForm
import Annotator.Proofs.Build.Faultless
import Annotator.Proofs.Build.FirstError
import Annotator.Proofs.Build.LineWork
import Annotator.Proofs.Build.Marks
import Annotator.Proofs.Build.Place
import Annotator.Proofs.Build.Report
import Annotator.Proofs.Hook.Alike
import Annotator.Proofs.Hook.CanonicalBuiltins
import Annotator.Proofs.Hook.CoupledBuiltins
import Annotator.Proofs.Hook.Coupling
import Annotator.Proofs.Hook.Described
import Annotator.Proofs.Hook.Faultless
import Annotator.Proofs.Hook.IgnoresIds
import Annotator.Proofs.Hook.IgnoresNumbers
import Annotator.Proofs.Hook.Marking
import Annotator.Proofs.Hook.Offers
import Annotator.Proofs.Hook.Rewrapped
import Annotator.Proofs.Hook.RewrappedBuiltins
import Annotator.Proofs.Hook.Scheduled
import Annotator.Proofs.Listing.Faultless
import Annotator.Proofs.Listing.Reading
import Annotator.Proofs.Listing.Rows
import Annotator.Proofs.Output.Assembly
import Annotator.Proofs.Output.Positions
import Annotator.Proofs.Output.Rows
import Annotator.Proofs.Output.Wrapping
import Annotator.Proofs.Region.Agreement
import Annotator.Proofs.Region.Behind
import Annotator.Proofs.Region.Confirmation
import Annotator.Proofs.Region.Gate
import Annotator.Proofs.Region.Growth
import Annotator.Proofs.Region.Metadata
import Annotator.Proofs.Region.Numbers
import Annotator.Proofs.Region.Pairing
import Annotator.Proofs.Region.Renumbering
import Annotator.Proofs.Text.Boundary
import Annotator.Proofs.Text.Phrases
import Annotator.Proofs.Text.Runs
import Annotator.Proofs.Tracker.Arrangement
import Annotator.Proofs.Tracker.Attach
import Annotator.Proofs.Tracker.Attendance
import Annotator.Proofs.Tracker.Beginning
import Annotator.Proofs.Tracker.CallOrder
import Annotator.Proofs.Tracker.Chronicle
import Annotator.Proofs.Tracker.Concurrency
import Annotator.Proofs.Tracker.CoupledRunning
import Annotator.Proofs.Tracker.Coupling
import Annotator.Proofs.Tracker.Course
import Annotator.Proofs.Tracker.Enactment
import Annotator.Proofs.Tracker.Eviction
import Annotator.Proofs.Tracker.Faultless
import Annotator.Proofs.Tracker.Frame
import Annotator.Proofs.Tracker.History
import Annotator.Proofs.Tracker.Isolation
import Annotator.Proofs.Tracker.Lifecycle
import Annotator.Proofs.Tracker.Moments
import Annotator.Proofs.Tracker.Offered
import Annotator.Proofs.Tracker.Part
import Annotator.Proofs.Tracker.Protocol
import Annotator.Proofs.Tracker.Received
import Annotator.Proofs.Tracker.Regime
import Annotator.Proofs.Tracker.Replay
import Annotator.Proofs.Tracker.Rewrapping
import Annotator.Proofs.Tracker.Running
import Annotator.Proofs.Tracker.Scheduling
import Annotator.Proofs.Tracker.StoredRegions
import Annotator.Proofs.Tracker.Twin
import Annotator.Proofs.WorkTree.Faultless
import Annotator.Proofs.WorkTree.FileLine
import Annotator.Proofs.WorkTree.Marks
import Annotator.Proofs.WorkTree.Section
import Annotator.Script
import Annotator.Proofs.Registry.Registration
import Annotator.Proofs.Text.Padding
import Annotator.Proofs.Registry.Resolution
import Annotator.Proofs.Registry.Padding
import Annotator.Proofs.Tracker.Padding
import Annotator.Proofs.Text.RawLines
import Annotator.Proofs.Capture.Newlines
import Annotator.Proofs.Region.Coverage
import Annotator.Proofs.Build.Waiting
import Annotator.Proofs.Text.Words
import Annotator.Proofs.Registry.Activation
import Annotator.Proofs.Region.Limits
import Annotator.Proofs.Registry.Recognition
import Annotator.Proofs.WorkTree.LongFormat
import Annotator.Proofs.Files.Saving
import Annotator.Proofs.Settings.Reading
import Annotator.Proofs.Settings.Persistence
