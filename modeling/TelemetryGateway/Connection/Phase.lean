import TelemetryGateway.Document.Decoder

/-!
# Phases of a connection

A connection is idle until its first dial.  A dial makes it connecting, the first message connected,
the end of the first snapshot synced, and the end of the subscription disconnected, from where it
may be dialed again.  A stop request is final: a connection that the cache has been told about stays
stopping until its subscription has ended, any other one is stopped at once.
-/

namespace TelemetryGateway

/-- Where a connection is in its life. -/
inductive Phase where
  | idle
  | connecting
  | connected
  | synced
  | disconnected
  | stopping
  | stopped
deriving DecidableEq, Inhabited

inductive PhaseEvent where
  | dialStarted
  | firstMessage
  | syncReceived
  | transportClosed
  | stopRequested
deriving DecidableEq, Inhabited

namespace Phase

/-- The phase after an event; `none` if the event is not valid here. -/
def next : Phase → PhaseEvent → Option Phase
  | .idle, .dialStarted | .connecting, .dialStarted | .disconnected, .dialStarted =>
      some .connecting
  | .connecting, .firstMessage => some .connected
  | .connected, .syncReceived | .synced, .syncReceived => some .synced
  | .connecting, .transportClosed | .connected, .transportClosed | .synced, .transportClosed
  | .disconnected, .transportClosed => some .disconnected
  | .stopping, .transportClosed | .stopped, .transportClosed => some .stopped
  | .connected, .stopRequested | .synced, .stopRequested => some .stopping
  | .idle, .stopRequested | .connecting, .stopRequested | .disconnected, .stopRequested =>
      some .stopped
  | .stopping, .stopRequested => some .stopping
  | .stopped, .stopRequested => some .stopped
  | _, _ => none

/-- At least one message has arrived on the live subscription. -/
def isConnected : Phase → Bool
  | .connected | .synced => true
  | _ => false

/-- The sink has been told of the connection and not yet of its end. -/
def ownsCacheState : Phase → Bool
  | .connected | .synced | .stopping => true
  | _ => false

/-- Some part of connecting has begun and no stop was requested. -/
def isConnecting : Phase → Bool
  | .connecting | .connected | .synced | .disconnected => true
  | _ => false

def isSynced : Phase → Bool
  | .synced => true
  | _ => false

def isStopped : Phase → Bool
  | .stopping | .stopped => true
  | _ => false

def name : Phase → String
  | .idle => "idle"
  | .connecting => "connecting"
  | .connected => "connected"
  | .synced => "synced"
  | .disconnected => "disconnected"
  | .stopping => "stopping"
  | .stopped => "stopped"

def names : List (String × Phase) :=
  [Phase.idle, .connecting, .connected, .synced, .disconnected, .stopping, .stopped].map
    fun p => (p.name, p)

def decode : Decoder Phase := .choice names

def encode (p : Phase) : Document := .text p.name

/-- A dial leads to one phase only, from one in which neither a stop was requested nor the sink has
been told of the connection. -/
theorem eq_connecting_of_next {p q : Phase} (h : p.next .dialStarted = some q) :
    q = .connecting ∧ p.isStopped = false ∧ p.ownsCacheState = false := by
  cases p <;> simp_all [next, isStopped, ownsCacheState]

end Phase

end TelemetryGateway
