import TelemetryGateway.Connection.Phase
import TelemetryGateway.Journal
import TelemetryGateway.Link

/-!
# What happens in the life of a connection

A connection tells its sink about its life: `connect` at the first message of a subscription, then
what it learns, and at the end `disconnect` followed by `reset`.  The functions here say, for each
thing that can happen, what becomes of the phase, which calls the sink gets and what is reported;
they are the only places where a phase changes.
-/

namespace TelemetryGateway

inductive SinkCall where
  | connect
  | disconnect
  | reset
  | sync
  | update (notification : Notification)
deriving DecidableEq, Inhabited

/-- What a connection does on an occasion. -/
structure Reaction where
  phase : Phase
  calls : List SinkCall := []
  occurrences : List Occurrence := []

namespace Phase

def stop (p : Phase) : Reaction :=
  match p.next .stopRequested with
  | none => { phase := p }
  | some q => { phase := q, occurrences := if p = q then [] else [.stopping p] }

/-- The subscription, or the attempt to open one, is over. -/
def lose (p : Phase) : Reaction :=
  match p.next .transportClosed with
  | none => { phase := p }
  | some q =>
      if p.ownsCacheState then
        { phase := q, calls := [.disconnect, .reset], occurrences := [.disconnected] }
      else { phase := q }

/-- A message arrives; the first one of a subscription connects the target. -/
def greet (p : Phase) : Reaction :=
  match p.next .firstMessage with
  | none => { phase := p }
  | some q => { phase := q, calls := [.connect], occurrences := [.connected] }

def complete (p : Phase) : Reaction :=
  match p.next .syncReceived with
  | none => { phase := p }
  | some q => { phase := q, calls := [.sync] }

/-- Handles one message of a device, for a connection of the given name and rejection scope and a
sink that refuses some notifications. After a stop messages are ignored. An error means that the
subscription has to be closed. -/
def receive (p : Phase) (name : String) (scope : RejectionScope)
    (refuses : Notification → Bool) (message : SubscribeResponse) :
    Reaction × Option GatewayError :=
  if p.isStopped then ({ phase := p }, none)
  else
    let greeting := p.greet
    match message.response with
    | none => (greeting, some (.unrecognizedResponse name))
    | some (.error e) => (greeting, some (.peerError name e.render))
    | some (.sync _) =>
        let completion := greeting.phase.complete
        ({ completion with
            calls := greeting.calls ++ completion.calls
            occurrences := greeting.occurrences ++ completion.occurrences }, none)
    | some (.update n) =>
        match (n.addressedTo name).screen scope with
        | .forward n rejected =>
            ({ greeting with
                calls := greeting.calls ++ [.update n]
                occurrences := greeting.occurrences ++ rejected.map .updateDropped },
              if refuses n then some (.cache .emptyPath) else none)
        | .drop rejected =>
            ({ greeting with
                occurrences := greeting.occurrences ++ rejected.map .updateDropped }, none)

end Phase

end TelemetryGateway
