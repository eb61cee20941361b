import TelemetryGateway.Config.Gateway
import TelemetryGateway.Target.Configuration

/-!
# Queries

A query is all that a transport needs to open one subscription.  It is built from the descriptor of
a target and a request template, of which at most the target designator changes: it becomes the name
of the target where the template has none.
-/

namespace TelemetryGateway

/-- What a transport needs to open a subscription; the timeout is in milliseconds. -/
structure Query where
  target : String
  addresses : List String
  credentials : Option Credentials
  timeout : Nat
  tls : TlsSettings
  request : SubscribeRequest
deriving DecidableEq, Inhabited

/-- Why no transport could dial a query. -/
inductive QueryFault where
  | emptyTarget
  | noAddresses
  | blankAddress
  | zeroTimeout
  | emptyList
  | noList
deriving DecidableEq

namespace QueryFault

def reason : QueryFault → String
  | .emptyTarget => "target name is empty"
  | .noAddresses => "no addresses"
  | .blankAddress => "blank address"
  | .zeroTimeout => "dial timeout is zero"
  | .emptyList => "subscription list is empty"
  | .noList => "no subscription list"

end QueryFault

namespace Query

/-- Builds the query of a target; a template without a subscription list is refused. -/
def build (target : String) (descriptor : TargetDescriptor) (request : SubscribeRequest)
    (timeout : Nat) (tls : TlsSettings) : Except GatewayError Query :=
  match request.subscribe with
  | none => .error (.invalidRequest ("request for " ++ target ++ " has no subscription list"))
  | some list =>
      .ok {
        target, addresses := descriptor.addresses, credentials := descriptor.credentials, timeout,
        tls, request := ⟨some (list.addressedTo target)⟩ }

/-- The first reason why no transport could dial the query. -/
def fault? (q : Query) : Option QueryFault :=
  if q.target.isEmpty then some .emptyTarget
  else if q.addresses.isEmpty then some .noAddresses
  else if q.addresses.any Text.isBlank then some .blankAddress
  else if q.timeout = 0 then some .zeroTimeout
  else
    match q.request.subscribe with
    | none => some .noList
    | some list => if list.subscription.isEmpty then some .emptyList else none

def validate (q : Query) : Except GatewayError Unit :=
  match q.fault? with
  | some fault => .error (.invalidQuery q.target fault.reason)
  | none => .ok ()

end Query

end TelemetryGateway
