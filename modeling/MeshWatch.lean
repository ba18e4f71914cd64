import MeshWatch.Logging.Calendar
import MeshWatch.Main
import MeshWatch.Measure
import MeshWatch.Program.Run
import MeshWatch.Snapshot.Draft
import MeshWatch.Topology.Record
import MeshWatch.Proofs.Event.Collection
import MeshWatch.Proofs.Monitor.Overlap
import MeshWatch.Proofs.Monitor.Recomputation
import MeshWatch.Proofs.Event.Completeness
import MeshWatch.Proofs.Monitor.Isolation
import MeshWatch.Proofs.Monitor.Reporting
import MeshWatch.Proofs.Text.ByteOrder
import MeshWatch.Proofs.Topology.Resolution
import MeshWatch.Proofs.Text.Blank
import MeshWatch.Proofs.Text.Decimal
import MeshWatch.Proofs.Text.Lines
import MeshWatch.Proofs.Profile.Conversion
import MeshWatch.Proofs.Profile.Reexport
import MeshWatch.Proofs.Profile.Presence
import MeshWatch.Proofs.Profile.Editing
import MeshWatch.Proofs.Profile.Cursor
import MeshWatch.Proofs.Json.Tokens
import MeshWatch.Proofs.Json.Grammar
import MeshWatch.Proofs.Data.Reading
import MeshWatch.Proofs.Profile.Saving
import MeshWatch.Proofs.Disk.Files
import MeshWatch.Proofs.Monitor.Growth
import MeshWatch.Proofs.Watch.Printing
import MeshWatch.Proofs.Watch.Interruption
import MeshWatch.Proofs.Data.Arrangement
import MeshWatch.Proofs.Snapshot.Drafting
import MeshWatch.Proofs.Toml.Strings
import MeshWatch.Proofs.Toml.Values
import MeshWatch.Proofs.Toml.Lines
import MeshWatch.Proofs.Toml.Documents
import MeshWatch.Proofs.Engine.Document
import MeshWatch.Proofs.Topology.Rearrangement
import MeshWatch.Proofs.Snapshot.Extraction
import MeshWatch.Proofs.Profile.Normalisation
import MeshWatch.Proofs.Snapshot.Dependence
import MeshWatch.Proofs.Json.Continuation
import MeshWatch.Proofs.Data.Nesting
import MeshWatch.Proofs.Event.ExportedList
import MeshWatch.Proofs.Program.Exporting
import MeshWatch.Proofs.Event.Translation
import MeshWatch.Proofs.Measure.Bytes
import MeshWatch.Proofs.Measure.Units
import MeshWatch.Proofs.Profile.Naming
import MeshWatch.Proofs.Profile.Filling
import MeshWatch.Proofs.Profile.Forwarding
import MeshWatch.Proofs.Data.Revision
import MeshWatch.Proofs.Profile.Compatibility
import MeshWatch.Proofs.Report.Columns
import MeshWatch.Proofs.Report.Structure
import MeshWatch.Proofs.Logging.Refusal
import MeshWatch.Proofs.Data.SavedTexts
import MeshWatch.Proofs.Measure.PeerNumbers
import MeshWatch.Proofs.Text.Settings
import MeshWatch.Proofs.Topology.Calls
import MeshWatch.Proofs.Event.Clock
