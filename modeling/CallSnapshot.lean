import CallSnapshot.Capture.Delivery
import CallSnapshot.Collector.Command
import CallSnapshot.Collector.Watch
import CallSnapshot.Diff.Apply
import CallSnapshot.Main
import CallSnapshot.Program.Sample
import CallSnapshot.Text.Hex
import CallSnapshot.Value.Make
import CallSnapshot.Proofs.Diff.Additivity
import CallSnapshot.Proofs.Codec.RoundTrip
import CallSnapshot.Proofs.Codec.Unfolding
import CallSnapshot.Proofs.Codec.Tagging
import CallSnapshot.Proofs.Replay.Reporting
import CallSnapshot.Proofs.Replay.Accounting
import CallSnapshot.Proofs.Session.Losses
import CallSnapshot.Proofs.Session.Naming
import CallSnapshot.Proofs.Collector.Telemetry
import CallSnapshot.Proofs.Source.Exporting
import CallSnapshot.Proofs.Source.Conservation
import CallSnapshot.Proofs.Files.Direct
import CallSnapshot.Proofs.Session.Injecting
import CallSnapshot.Proofs.Log.Damage
import CallSnapshot.Proofs.Log.Event
import CallSnapshot.Proofs.Collector.Growth
import CallSnapshot.Proofs.CommandLine.Sessions
import CallSnapshot.Proofs.CommandLine.Unstarted
import CallSnapshot.Proofs.Capture.Awaiting
import CallSnapshot.Proofs.Capture.Delivering
import CallSnapshot.Proofs.Program.Finding
import CallSnapshot.Proofs.Session.Batch
import CallSnapshot.Proofs.Codec.Duration
import CallSnapshot.Proofs.Codec.Instance
import CallSnapshot.Proofs.Codec.Member
import CallSnapshot.Proofs.Diff.Undoing
import CallSnapshot.Proofs.Capture.Transparency
import CallSnapshot.Proofs.Codec.Reordering
import CallSnapshot.Proofs.Codec.Callable
import CallSnapshot.Proofs.Collector.Idling
import CallSnapshot.Proofs.Settings.Saving
