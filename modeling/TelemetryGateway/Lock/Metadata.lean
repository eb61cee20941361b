import TelemetryGateway.Document.Decoder
import TelemetryGateway.Json.Reader
import TelemetryGateway.Json.Writer

/-!
# Lock metadata

What the holder of a lock file writes beside it: who it is, which target it locked and when.
-/

namespace TelemetryGateway

/-- Who holds a lock, since when (in seconds since the epoch). -/
structure LockMetadata where
  pid : UInt32
  target : String
  acquiredAt : UInt64
  gatewayVersion : String
deriving DecidableEq, Inhabited

def gatewayVersion : String := "0.1.0"

namespace LockMetadata

open FieldReader Document

def decode : Decoder LockMetadata := .record do
  let pid ← required "pid" .uint32
  let target ← required "target" .text
  let acquiredAt ← required "acquired_at" .uint64
  let gatewayVersion ← required "gateway_version" .text
  return { pid, target, acquiredAt, gatewayVersion }

def encode (m : LockMetadata) : Document :=
  .record (field "pid" (.nat m.pid.toNat) ++ field "target" (.text m.target) ++
    field "acquired_at" (.nat m.acquiredAt.toNat) ++
    field "gateway_version" (.text m.gatewayVersion))

/-- The content of a sidecar. -/
def render (m : LockMetadata) : String := Json.renderLines m.encode

def parse? (content : String) : Option LockMetadata :=
  (Json.read content).bind (decode .json)

end LockMetadata

end TelemetryGateway
