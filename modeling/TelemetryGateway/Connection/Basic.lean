import TelemetryGateway.Connection.Phase
import TelemetryGateway.Query

/-!
# Connections

A connection belongs to one target.  What it is connected to and how does not change in its life;
its phase, the link of its live subscription and whether its loop runs do.
-/

namespace TelemetryGateway

/-- Where a connection sends what it learns: to a recorder or to a cache, by number. -/
inductive SinkRef where
  | recorder (id : Nat)
  | cache (id : Nat)
deriving DecidableEq, Inhabited

/-- The connection to one target. -/
structure Connection where
  name : String
  descriptor : TargetDescriptor
  request : SubscribeRequest
  settings : ConnectionSettings
  sink : SinkRef
  phase : Phase := .idle
  /-- The link of the live subscription. -/
  client : Option Nat := none
  /-- An acquisition loop is running. -/
  running : Bool := false
deriving DecidableEq, Inhabited

structure ConnectionStatus where
  name : String
  phase : Phase
  addresses : List String
deriving DecidableEq, Inhabited

namespace ConnectionStatus

open FieldReader Document

def decode : Decoder ConnectionStatus := .record do
  let name ← required "name" .text
  let phase ← required "phase" Phase.decode
  let addresses ← required "addresses" (.list .text)
  return { name, phase, addresses }

def encode (s : ConnectionStatus) : Document :=
  .record (field "name" (.text s.name) ++ field "phase" s.phase.encode ++
    field "addresses" (ofList .text s.addresses))

end ConnectionStatus

namespace Connection

def status (c : Connection) : ConnectionStatus := ⟨c.name, c.phase, c.descriptor.addresses⟩

def isFor (c : Connection) (d : TargetDescriptor) : Bool := c.descriptor.sameTarget d

/-- The query that the connection dials, if its descriptor and template give one. -/
def query (c : Connection) : Except GatewayError Query := do
  let q ← Query.build c.name c.descriptor c.request c.settings.dialTimeout c.settings.tls
  q.validate
  return q

def describe (c : Connection) : String :=
  let phase := c.phase.name
  "TargetConnection \x7b name: " ++ Text.quote c.name ++ ", descriptor: " ++
    c.descriptor.describe ++ ", phase: " ++ phase.capitalize ++ ", .. \x7d"

end Connection

end TelemetryGateway
