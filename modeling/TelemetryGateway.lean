import TelemetryGateway.Config.File
import TelemetryGateway.Lock.FilePath
import TelemetryGateway.Log.Filter
import TelemetryGateway.Supervisor
import TelemetryGateway.Text.Alphanumeric
import TelemetryGateway.Proofs.Network.Run
import TelemetryGateway.Proofs.Network.Coherence
import TelemetryGateway.Proofs.Network.Delivery
import TelemetryGateway.Proofs.Lock.Registry
import TelemetryGateway.Proofs.Network.SingleOwner
import TelemetryGateway.Proofs.Denylist
import TelemetryGateway.Proofs.Network.CachedPaths
import TelemetryGateway.Proofs.Query
import TelemetryGateway.Proofs.Network.Queries
import TelemetryGateway.Proofs.Message.PathText
import TelemetryGateway.Proofs.Cache.LeafMap
import TelemetryGateway.Proofs.Connection.Messages
import TelemetryGateway.Proofs.Network.Pointwise
import TelemetryGateway.Proofs.Network.Alone
import TelemetryGateway.Proofs.Network.Subscription
import TelemetryGateway.Proofs.Dictionary
import TelemetryGateway.Proofs.Network.Standing
import TelemetryGateway.Proofs.Supervisor.Run
import TelemetryGateway.Proofs.Supervisor.Crew
import TelemetryGateway.Proofs.Supervisor.Upkeep
import TelemetryGateway.Proofs.Supervisor.Reconciliation
import TelemetryGateway.Proofs.Supervisor.Replacement
import TelemetryGateway.Proofs.Network.Paired
import TelemetryGateway.Proofs.Connection.Operations
import TelemetryGateway.Proofs.Network.Exclusion
import TelemetryGateway.Proofs.Network.Acquisition
import TelemetryGateway.Proofs.Network.Admission
import TelemetryGateway.Proofs.Network.Finality
import TelemetryGateway.Proofs.Network.Wakefulness
import TelemetryGateway.Proofs.Network.Attunement
import TelemetryGateway.Proofs.Network.Gates
import TelemetryGateway.Proofs.Network.Return
import TelemetryGateway.Proofs.Json.Spelling
import TelemetryGateway.Proofs.Lock.Files
import TelemetryGateway.Proofs.Lock.Directory
import TelemetryGateway.Proofs.Lock.Ownership
import TelemetryGateway.Proofs.Lock.Likeness
import TelemetryGateway.Proofs.Lock.Fleet
import TelemetryGateway.Proofs.Lock.Exclusion
import TelemetryGateway.Proofs.Lock.Sidecar
import TelemetryGateway.Proofs.Lock.Independence
import TelemetryGateway.Proofs.Supervisor.Liveness
import TelemetryGateway.Proofs.Supervisor.Refusal
import TelemetryGateway.Proofs.Supervisor.Registry
import TelemetryGateway.Proofs.Network.Contention
import TelemetryGateway.Proofs.Supervisor.Duties
import TelemetryGateway.Proofs.Supervisor.Management
import TelemetryGateway.Proofs.Supervisor.Shutdown
import TelemetryGateway.Proofs.Document.Abridgement
import TelemetryGateway.Proofs.Document.Restoration
import TelemetryGateway.Proofs.Message.Codec
import TelemetryGateway.Proofs.Config.Codec
import TelemetryGateway.Proofs.Document.RoundTrip
import TelemetryGateway.Proofs.Cache.Batch
import TelemetryGateway.Proofs.Cache.OriginRoot
import TelemetryGateway.Proofs.Network.Bookkeeping
import TelemetryGateway.Proofs.Network.Cleanup
import TelemetryGateway.Proofs.Slot.Ledger
import TelemetryGateway.Proofs.Screening
import TelemetryGateway.Proofs.Link.Stream
import TelemetryGateway.Proofs.Network.Dials
import TelemetryGateway.Proofs.Supervisor.Reapplication
import TelemetryGateway.Proofs.Lock.Paths
import TelemetryGateway.Proofs.Supervisor.Startup
