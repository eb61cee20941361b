import TelemetryGateway.Network.Schedule

/-!
# Acts of the device side

What devices do to the network: they accept sessions, send on them, end them, and wait.  A session
that nobody knows, or that was dropped, can do nothing.
-/

namespace TelemetryGateway.Network

/-- Takes the session that has waited longest; the result is its number and its query. -/
def takeSession (s : Network) : Option (Nat × Query) × Network :=
  match s.device.waiting with
  | [] => (none, s)
  | session :: rest =>
      (some (s.device.sessions.length, session.query),
        { s with device := { s.device with
            waiting := rest, sessions := s.device.sessions ++ [session] } })

/-- Accepts a session, waiting for one until a time if a time is given. -/
def accept (s : Network) (limit : Option Nat) : Option (Nat × Query) × Network :=
  let s :=
    match limit with
    | none => s
    | some limit => (s.waitUntil (fun s => !s.device.waiting.isEmpty) limit).2
  s.takeSession

inductive Delivery where
  | queued
  /-- The subscription is gone. -/
  | gone
  /-- The buffer stayed full. -/
  | full
deriving DecidableEq

/-- Whether the sender of a link has nothing to wait for: there is room, or nobody reads. -/
def canSend (l : Nat) (s : Network) : Bool :=
  (s.links[l]?.map fun k => k.hasRoom || k.readerGone).getD true

/-- Puts an event on a link, waiting for room for one millisecond at most. -/
def deliver (s : Network) (l : Nat) (e : StreamEvent) : Delivery × Network :=
  let (ok, s) := s.waitUntil (canSend l) (s.now + 1)
  if !ok then (.full, s)
  else if (s.links[l]?.map (·.readerGone)).getD true then (.gone, s)
  else (.queued, s.touchLink l (·.push e))

/-- Sends a message on a session; a subscription whose close was asked for is gone. -/
def send (s : Network) (session : Session) (message : SubscribeResponse) : Delivery × Network :=
  if (s.links[session.link]?.map (·.closeRequested)).getD true then (.gone, s)
  else s.deliver session.link (.response message)

def sendAll (s : Network) (session : Session) : List SubscribeResponse → List Delivery × Network
  | [] => ([], s)
  | message :: rest =>
      let (delivery, s) := s.send session message
      let (deliveries, s) := s.sendAll session rest
      (delivery :: deliveries, s)

/-- Ends a session with a reason; fails only if the buffer stays full. -/
def endSession (s : Network) (session : Session) (reason : String) : Bool × Network :=
  let (delivery, s) := s.deliver session.link (.closed reason)
  (delivery != .full, s)

/-- Drops a session; tells whether it existed. -/
def dropSession (s : Network) (session : Nat) : Bool × Network :=
  match s.device.session? session with
  | none => (false, s)
  | some known =>
      let device := { s.device with
        sessions := s.device.sessions.set session { known with dropped := true } }
      (true, { s with device }.touchLink known.link Link.dropSender)

/-- Stops accepting, and drops what was dialed and not accepted; tells whether sessions were
accepted before. -/
def dropAcceptor (s : Network) : Bool × Network :=
  let lost := s.device.waiting.map (·.link)
  let device := { s.device with accepting := false, waiting := [] }
  (s.device.accepting, lost.foldl (fun s l => s.touchLink l Link.dropSender) { s with device })

def isClosed (s : Network) (session : Session) : Bool :=
  (s.links[session.link]?.map (·.closeRequested)).getD false

/-- Waits for the end of a session, at most until a time. -/
def awaitClosed (s : Network) (session : Session) (limit : Nat) : Bool × Network :=
  s.waitUntil (fun s => s.isClosed session) limit

/-! ## Direct use of the transport -/

/-- Dials without a connection, waiting for the answer; the result is the link. -/
def subscribe (s : Network) (q : Query) : Except GatewayError Nat × Network :=
  let s := { s with device := s.device.noteDial q }
  let s := s.device.delay.elim s (fun delay => (s.waitUntil (fun _ => false) (s.now + delay)).2)
  match s.device.answerDial q s.links.length with
  | (none, device) => (.ok s.links.length, { s with device, links := s.links ++ [({} : Link)] })
  | (some error, device) => (.error error, { s with device })

/-- Reads the next event of a link, waiting for one millisecond at most. -/
def nextEvent (s : Network) (l : Nat) : Option StreamEvent × Network :=
  let ready (s : Network) : Bool := ((s.links[l]?.bind Link.next?).map fun _ => true).getD false
  let (_, s) := s.waitUntil ready (s.now + 1)
  match s.links[l]?.bind Link.next? with
  | some (event, link) => (some event, { s with links := s.links.set l link })
  | none => (none, s)

end TelemetryGateway.Network
