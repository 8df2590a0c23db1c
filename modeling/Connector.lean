import Connector.Control
import Connector.Main
import Connector.Template
import Connector.Definition.Printer
import Connector.Proofs.Loop.Resume
import Connector.Proofs.Loop.Stop
import Connector.Proofs.Scheduler.Layers
import Connector.Proofs.Harmony
import Connector.Proofs.Scheduler.Blocks
import Connector.Proofs.Store.Namespaces
import Connector.Proofs.Scheduler.Ledger
import Connector.Proofs.Store.Journal
import Connector.Proofs.Engine.Course
import Connector.Proofs.Engine.Beside
import Connector.Proofs.Engine.Stop
import Connector.Proofs.Loop.Pages
import Connector.Proofs.Loop.Lockstep
import Connector.Proofs.Loop.Forms
import Connector.Proofs.Scheduler.Handover
import Connector.Proofs.Forest.Family
import Connector.Proofs.Forest.Stops
import Connector.Proofs.Load.WellFormed
import Connector.Proofs.Loop.Failures
import Connector.Proofs.Engine.Failures
import Connector.Proofs.Definition.RoundTrip
import Connector.Proofs.Forest.Life
import Connector.Proofs.Loop.Snapshots
import Connector.Proofs.Engine.Termination
import Connector.Proofs.Loop.Frame
import Connector.Proofs.Template.Absent
import Connector.Proofs.Path.Hits
import Connector.Proofs.Path.Steps
import Connector.Proofs.Path.Printing
import Connector.Proofs.Loop.Headers
import Connector.Proofs.Template.Present
import Connector.Proofs.Text.Pieces
import Connector.Proofs.Control.Handles
import Connector.Proofs.Engine.Flag
import Connector.Proofs.Regex.Anchored
import Connector.Proofs.Registry
import Connector.Proofs.Credentials
import Connector.Proofs.Scheduler.Lineage
