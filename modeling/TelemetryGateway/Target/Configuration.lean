import TelemetryGateway.Error
import TelemetryGateway.Message.Codec
import TelemetryGateway.Target.Descriptor
import TelemetryGateway.Text.Character

/-!
# Target configurations

All targets that a gateway serves, and the request templates that they name.  A configuration is
accepted if every target can be dialed and names a template with a subscription list; of several
faults the first one of the first target in the order of names counts.
-/

namespace TelemetryGateway

/-- The targets of a gateway and the request templates, both by name. -/
structure TargetConfiguration where
  targets : Dictionary TargetDescriptor := ∅
  requests : Dictionary SubscribeRequest := ∅
deriving DecidableEq, Inhabited

namespace TargetConfiguration

open FieldReader Document

def decode : Decoder TargetConfiguration := .record do
  let targets ← withDefault "targets" ∅ (.dictionary TargetDescriptor.decode)
  let requests ← withDefault "requests" ∅ (.dictionary SubscribeRequest.decode)
  return { targets, requests }

def encode (c : TargetConfiguration) : Document :=
  .record (field "targets" (ofDictionary TargetDescriptor.encode c.targets) ++
    field "requests" (ofDictionary SubscribeRequest.encode c.requests))

/-- The request template of a target. -/
def requestFor? (c : TargetConfiguration) (d : TargetDescriptor) : Option SubscribeRequest :=
  c.requests.get? d.request

/-- What is wrong with one target. -/
def targetFault? (c : TargetConfiguration) (name : String) (d : TargetDescriptor) :
    Option ConfigFault :=
  if Text.isBlank name then some .emptyTargetName
  else if d.addresses.isEmpty || d.addresses.any Text.isBlank then some (.noAddress name)
  else
    match c.requestFor? d with
    | none => some (.unknownRequest name d.request)
    | some request =>
        if request.subscribe.isNone then some (.noSubscriptionList name d.request) else none

def fault? (c : TargetConfiguration) : Option ConfigFault :=
  c.targets.entries.findSome? fun e => c.targetFault? e.1 e.2

def validate (c : TargetConfiguration) : Except GatewayError Unit :=
  match c.fault? with
  | some fault => .error (.ofFault fault)
  | none => .ok ()

end TargetConfiguration

end TelemetryGateway
