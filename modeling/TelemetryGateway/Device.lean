import TelemetryGateway.Query

/-!
# The device side

Stands in for the devices of a network: it notes every dial, can delay dials and make them fail, and
hands the sessions that were dialed to whoever accepts them.
-/

namespace TelemetryGateway

structure Session where
  query : Query
  link : Nat
  dropped : Bool := false
deriving DecidableEq, Inhabited

structure Device where
  /-- The queries of all dials, the oldest first. -/
  queries : List Query := []
  /-- How long a dial takes, in milliseconds. -/
  delay : Option Nat := none
  /-- How many of the next dials fail. -/
  failing : Nat := 0
  accepting : Bool := true
  /-- Sessions dialed and not yet accepted, the oldest first. -/
  waiting : List Session := []
  sessions : List Session := []
deriving DecidableEq, Inhabited

namespace Device

def dialCount (d : Device) : Nat := d.queries.length

def noteDial (d : Device) (q : Query) : Device := { d with queries := d.queries ++ [q] }

/-- Ends a dial whose delay is over: it fails with an error, or a session over the given link waits
to be accepted. -/
def answerDial (d : Device) (q : Query) (link : Nat) : Option GatewayError × Device :=
  if 0 < d.failing then
    (some (.dial q.target "connection refused"), { d with failing := d.failing - 1 })
  else if d.accepting then (none, { d with waiting := d.waiting ++ [{ query := q, link }] })
  else (some (.transport "loopback acceptor dropped"), d)

/-- The accepted session of a number, unless it was dropped. -/
def session? (d : Device) (session : Nat) : Option Session :=
  d.sessions[session]?.bind fun s => if s.dropped then none else some s

end Device

end TelemetryGateway
